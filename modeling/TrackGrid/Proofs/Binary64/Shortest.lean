import TrackGrid.Binary64.Shortest
import TrackGrid.Proofs.Binary64.Arithmetic
import TrackGrid.Proofs.Reading.Number

/-! # The shortest text reads back

A double is the nearest one to every number between the midpoints around it. Its text writes one of
these numbers.
-/

namespace TrackGrid.Binary64

/-! ## Which numbers round to a rank -/

variable {num den k shift rank : Nat}

theorem divideToEven_eq (hlow : den * (2 * k) ≤ 2 * num + den)
    (hhigh : 2 * num ≤ den * (2 * k + 1))
    (hodd : k % 2 = 1 → den * (2 * k) < 2 * num + den ∧ 2 * num < den * (2 * k + 1))
    (hden : 0 < den) : divideToEven num den = k := by
  have hdiv := Nat.div_add_mod num den
  have hmod := Nat.mod_lt num hden
  simp only [divideToEven]
  generalize num / den = q at *
  generalize num % den = r at *
  have hle : q ≤ k := by
    by_contra h
    have := Nat.mul_le_mul_left den (show k + 1 ≤ q by omega)
    linarith
  have hge : k ≤ q + 1 := by
    by_contra h
    have := Nat.mul_le_mul_left den (show q + 2 ≤ k by omega)
    linarith
  rcases Nat.lt_or_ge q k with hlt | hle'
  · -- The quotient is rounded up.
    obtain rfl : k = q + 1 := by omega
    rw [if_neg]
    rintro (h | ⟨h, heven⟩)
    · linarith
    · have := (hodd (by omega)).1
      linarith
  · obtain rfl : k = q := by omega
    rw [if_pos]
    rcases Nat.lt_or_ge (2 * r) den with h | h
    · exact .inl h
    · have htie : 2 * r = den := by linarith
      refine .inr ⟨htie, ?_⟩
      by_contra heven
      have := (hodd (by omega)).2
      linarith

theorem shiftOf_eq (hden : 0 < den) (hhigh : num < den * 2 ^ (53 + shift))
    (hlow : shift = 0 ∨ den * 2 ^ (52 + shift) ≤ num) : shiftOf num den = shift := by
  have hlt : num / den < 2 ^ (53 + shift) := Nat.div_lt_of_lt_mul hhigh
  have hge : shift = 0 ∨ 2 ^ (52 + shift) ≤ num / den :=
    hlow.imp_right fun h => (Nat.le_div_iff_mul_le hden).2 (by rw [Nat.mul_comm]; exact h)
  have hpow := Nat.two_pow_pos (52 + shift)
  rw [shiftOf]
  rcases Nat.eq_zero_or_pos (num / den) with h0 | h0
  · rw [h0, Nat.log2_zero]
    omega
  · have hlog := (Nat.log2_lt h0.ne').2 hlt
    have hlog' := hge.imp_right (Nat.le_log2 h0.ne').2
    omega

theorem nearestRank_of_steps (hden : 0 < den) (hrank : shift * binade + k ≤ infinityRank)
    (hshift : shiftOf num den = shift)
    (hlow : den * 2 ^ shift * (2 * k) ≤ 2 * num + den * 2 ^ shift)
    (hhigh : 2 * num ≤ den * 2 ^ shift * (2 * k + 1))
    (hodd : k % 2 = 1 → den * 2 ^ shift * (2 * k) < 2 * num + den * 2 ^ shift ∧
      2 * num < den * 2 ^ shift * (2 * k + 1)) :
    nearestRank num den = shift * binade + k := by
  rw [nearestRank_eq, significand, hshift,
    divideToEven_eq hlow hhigh hodd (Nat.mul_pos hden (Nat.two_pow_pos _)), Nat.min_eq_right hrank]

theorem add_mod_two (shift d : Nat) : (shift * binade + d) % 2 = d % 2 := by
  rw [binade]
  omega

/-- The numbers between the midpoints round to a rank, and the midpoints do if the rank is even. -/
theorem nearestRank_of_between (hden : 0 < den) (hpos : 0 < rank) (hrank : rank ≤ infinityRank)
    (hlow : den * (quanta (rank - 1) + quanta rank) ≤ 2 * num)
    (hhigh : 2 * num ≤ den * (quanta rank + quanta (rank + 1)))
    (hodd : rank % 2 = 1 → den * (quanta (rank - 1) + quanta rank) < 2 * num ∧
      2 * num < den * (quanta rank + quanta (rank + 1))) :
    nearestRank num den = rank := by
  obtain ⟨shift, d, rfl, hd, hs⟩ := exists_rank_eq rank
  have hb := binade_pos
  have hstep := Nat.mul_pos hden (Nat.two_pow_pos shift)
  have hmax : den * (quanta (shift * binade + d) + quanta (shift * binade + d + 1)) =
      den * 2 ^ shift * (2 * d + 1) := by
    rw [Nat.add_assoc, quanta_add (by omega) hs, quanta_add (by omega) (by omega)]
    ring
  rw [hmax, add_mod_two] at hodd
  rw [hmax] at hhigh
  have hroom : num < den * 2 ^ (53 + shift) := by
    have hle : d + 1 ≤ 2 ^ 53 := by
      rw [binade_eq] at hd
      omega
    have := Nat.mul_le_mul_left (den * 2 ^ shift) hle
    rw [pow_add]
    linarith
  by_cases hfirst : shift = 0 ∨ binade < d
  · -- The rank before is one step below.
    have hd0 : 1 ≤ d := by
      rcases hfirst with h0 | h
      · rw [h0, Nat.zero_mul] at hpos
        omega
      · omega
    have hmin : den * (quanta (shift * binade + d - 1) + quanta (shift * binade + d)) +
        den * 2 ^ shift = den * 2 ^ shift * (2 * d) := by
      rw [Nat.add_sub_assoc hd0, quanta_add (by omega) hs, quanta_add (by omega) (by omega)]
      obtain ⟨c, rfl⟩ := Nat.exists_eq_add_of_le' hd0
      rw [Nat.add_sub_cancel]
      ring
    refine nearestRank_of_steps hden hrank (shiftOf_eq hden hroom ?_) (by omega) hhigh
      fun h => ⟨by have := (hodd h).1; omega, (hodd h).2⟩
    refine hfirst.imp_right fun h => ?_
    have := Nat.mul_le_mul_left (den * 2 ^ shift) (show binade + 1 ≤ d from h)
    rw [binade_eq] at this
    rw [pow_add]
    linarith
  · -- The rank is the first of its binade, and the one before is half a step below.
    obtain rfl : d = binade := by omega
    obtain ⟨e, rfl⟩ : ∃ e, shift = e + 1 := ⟨shift - 1, by omega⟩
    have heven : binade % 2 = 0 := by decide
    rcases Nat.lt_or_ge num (den * 2 ^ (52 + (e + 1))) with hbelow | habove
    · -- Below it the number is rounded up, in the steps of the binade before.
      have hsplit : (e + 1) * binade + binade = e * binade + 2 * binade := by ring
      have hmin : den * (quanta ((e + 1) * binade + binade - 1) +
          quanta ((e + 1) * binade + binade)) + den * 2 ^ e = den * 2 ^ e * (2 * (2 * binade)) := by
        rw [hsplit, Nat.add_sub_assoc (by omega), quanta_add (by omega) (by omega),
          quanta_add (by omega) (by omega)]
        obtain ⟨c, hc⟩ := Nat.exists_eq_add_of_le' (show 1 ≤ 2 * binade by omega)
        rw [hc, Nat.add_sub_cancel]
        ring
      have hlow' : den * 2 ^ e * (2 * (2 * binade)) ≤ 2 * num + den * 2 ^ e := by omega
      rw [hsplit] at hrank ⊢
      refine nearestRank_of_steps hden hrank (shiftOf_eq hden ?_ (.inr ?_)) hlow' ?_
        fun h => absurd h (by omega)
      all_goals
        simp only [pow_add, pow_one, binade_eq] at hbelow hlow' ⊢
        linarith
    · have hhalf : den * 2 ^ (e + 1) * (2 * binade) ≤ 2 * num := by
        rw [pow_add] at habove
        rw [binade_eq]
        linarith
      exact nearestRank_of_steps hden hrank (shiftOf_eq hden hroom (.inr habove)) (by omega) hhigh
        fun h => absurd h (by omega)

/-! ## The interval of a rank -/

theorem grains_pos : 0 < grains := by decide +kernel

namespace RoundingInterval

variable {i : RoundingInterval}

theorem contains_nearestMultiple? {place digits : Nat}
    (h : i.nearestMultiple? place = some digits) :
    i.contains (digits * (2 * 10 ^ place)) = true := by
  simp only [nearestMultiple?, Nat.pow_eq] at h
  split at h
  · rename_i hbelow habove
    cases h
    split
    · exact hbelow
    · exact habove
  · rename_i hbelow _
    cases h
    exact hbelow
  · rename_i _ habove
    cases h
    exact habove
  · cases h

theorem contains_shortestFrom (h : i.contains (i.center / 2 * 2) = true) (place : Nat) :
    i.contains ((i.shortestFrom place).1 * (2 * 10 ^ (i.shortestFrom place).2)) = true := by
  induction place with
  | zero => exact h
  | succ place ih =>
    rw [shortestFrom]
    split
    · rename_i hmultiple
      exact contains_nearestMultiple? hmultiple
    · exact ih

theorem contains_ofRank_iff {x : Nat} :
    (ofRank rank).contains x = true ↔
      ((quanta (rank - 1) + quanta rank) * grains ≤ x ∧
        x ≤ (quanta rank + quanta (rank + 1)) * grains) ∧
      (rank % 2 = 1 → (quanta (rank - 1) + quanta rank) * grains < x ∧
        x < (quanta rank + quanta (rank + 1)) * grains) := by
  have hclosed : (ofRank rank).closed = decide (rank % 2 = 0) := rfl
  rw [contains, hclosed]
  split
  · rename_i heven
    rw [decide_eq_true_eq] at heven
    simp [ofRank, heven]
  · rename_i hodd
    simp only [Bool.and_eq_true, decide_eq_true_eq] at hodd ⊢
    simp only [ofRank]
    omega

theorem contains_center (hpos : 0 < rank) :
    (ofRank rank).contains ((ofRank rank).center / 2 * 2) = true := by
  have hlow := Nat.mul_lt_mul_of_pos_right (quanta_strictMono (Nat.sub_one_lt hpos.ne')) grains_pos
  have hhigh := Nat.mul_lt_mul_of_pos_right (quanta_strictMono (Nat.lt_add_one rank)) grains_pos
  have hcenter : (ofRank rank).center / 2 * 2 = quanta rank * grains + quanta rank * grains := by
    rw [ofRank, Nat.mul_assoc, Nat.mul_div_cancel_left _ (by decide), Nat.mul_two]
  rw [hcenter, contains_ofRank_iff, Nat.add_mul, Nat.add_mul]
  omega

end RoundingInterval

theorem contains_shortest {digits place : Nat} (hpos : 0 < rank)
    (h : (RoundingInterval.ofRank rank).shortest = (digits, place)) :
    (RoundingInterval.ofRank rank).contains (digits * (2 * 10 ^ place)) = true := by
  have hfrom := RoundingInterval.contains_shortestFrom (RoundingInterval.contains_center hpos)
    (RoundingInterval.ofRank rank).firstPlace
  rwa [← RoundingInterval.shortest, h] at hfrom

theorem nearestRank_of_contains {x : Nat} (hden : 0 < den) (hpos : 0 < rank)
    (hrank : rank ≤ infinityRank) (hx : den * x = 2 * num * grains)
    (h : (RoundingInterval.ofRank rank).contains x = true) : nearestRank num den = rank := by
  have hle : ∀ {a : Nat}, a * grains ≤ x → den * a ≤ 2 * num := by
    intro a ha
    refine Nat.le_of_mul_le_mul_right ?_ grains_pos
    rw [Nat.mul_assoc, ← hx]
    exact Nat.mul_le_mul_left den ha
  have hge : ∀ {a : Nat}, x ≤ a * grains → 2 * num ≤ den * a := by
    intro a ha
    refine Nat.le_of_mul_le_mul_right ?_ grains_pos
    rw [Nat.mul_assoc den, ← hx]
    exact Nat.mul_le_mul_left den ha
  have hlt : ∀ {a : Nat}, a * grains < x → den * a < 2 * num := by
    intro a ha
    refine Nat.lt_of_mul_lt_mul_right (a := grains) ?_
    rw [Nat.mul_assoc, ← hx]
    exact Nat.mul_lt_mul_of_pos_left ha hden
  have hgt : ∀ {a : Nat}, x < a * grains → 2 * num < den * a := by
    intro a ha
    refine Nat.lt_of_mul_lt_mul_right (a := grains) ?_
    rw [Nat.mul_assoc den, ← hx]
    exact Nat.mul_lt_mul_of_pos_left ha hden
  obtain ⟨⟨hlow, hhigh⟩, hodd⟩ := RoundingInterval.contains_ofRank_iff.1 h
  exact nearestRank_of_between hden hpos hrank (hle hlow) (hge hhigh)
    fun h1 => ⟨hlt (hodd h1).1, hgt (hodd h1).2⟩

/-! ## Reading the digits -/

theorem ten_pow_eq : 10 ^ 1074 = unit * grains := by decide +kernel

variable {digits place : Nat}

theorem ne_zero_of_contains (hpos : 0 < rank)
    (h : (RoundingInterval.ofRank rank).contains (digits * (2 * 10 ^ place)) = true) :
    digits ≠ 0 := by
  rintro rfl
  have hquanta := quanta_strictMono (Nat.sub_one_lt hpos.ne')
  have hlow : 0 < (quanta (rank - 1) + quanta rank) * grains := Nat.mul_pos (by omega) grains_pos
  have hle := (RoundingInterval.contains_ofRank_iff.1 h).1.1
  rw [Nat.zero_mul] at hle
  omega

section

variable (hpos : 0 < rank) (hrank : rank ≤ infinityRank)
  (h : (RoundingInterval.ofRank rank).contains (digits * (2 * 10 ^ place)) = true)

include hpos hrank h

theorem ofDecimal_of_le (hplace : 1074 ≤ place) :
    ofDecimal (digits * 10 ^ (place - 1074)) 0 = ofRank false rank := by
  have hne : digits * 10 ^ (place - 1074) ≠ 0 :=
    Nat.mul_ne_zero (ne_zero_of_contains hpos h) (Nat.pow_pos (by decide)).ne'
  rw [ofDecimal, if_neg hne, if_neg (by decide), if_neg (by omega), if_pos (by decide)]
  congr 1
  refine nearestRank_of_contains Nat.one_pos hpos hrank ?_ h
  obtain ⟨k, rfl⟩ := Nat.exists_eq_add_of_le hplace
  rw [Nat.add_sub_cancel_left, pow_add, ten_pow_eq]
  simp
  ring

theorem ofDecimal_of_lt (hplace : place < 1074) :
    ofDecimal digits (0 - (1074 - place : Nat)) = ofRank false rank := by
  have hne := ne_zero_of_contains hpos h
  rw [ofDecimal, if_neg hne, if_neg (by omega), if_neg (by omega), if_neg (by omega)]
  congr 1
  refine nearestRank_of_contains (Nat.pow_pos (by decide)) hpos hrank ?_ h
  have hexp : (-(0 - ((1074 - place : Nat) : Int))).toNat = 1074 - place := by omega
  have hsplit : 10 ^ (1074 - place) * 10 ^ place = unit * grains := by
    rw [← ten_pow_eq, ← pow_add, Nat.sub_add_cancel hplace.le]
  rw [hexp, Nat.pow_eq]
  calc 10 ^ (1074 - place) * (digits * (2 * 10 ^ place))
      = 2 * digits * (10 ^ (1074 - place) * 10 ^ place) := by ring
    _ = 2 * (digits * unit) * grains := by rw [hsplit]; ring

end

open Reading

theorem digits_zero : Digits ['0'] := ⟨by simp, by simp⟩

theorem plainNumber_positional (hpos : 0 < rank) (hrank : rank ≤ infinityRank)
    (h : (RoundingInterval.ofRank rank).contains (digits * (2 * 10 ^ place)) = true) :
    PlainNumber (positional digits place) (ofRank false rank) := by
  have hwritten := digits_toDigits digits
  have hread : Nat.ofDigitChars 10 (Nat.toDigits 10 digits) 0 = digits :=
    Nat.ofDigitChars_ten_toDigits
  simp only [positional]
  generalize Nat.toDigits 10 digits = written at hwritten hread ⊢
  have hzeros : ∀ n, ∀ c ∈ List.replicate n '0', c.isDigit = true := by
    intro n c hc
    rw [(List.mem_replicate.1 hc).2]
    decide
  split
  · -- The last digit stands before the point, and zeros fill the places in between.
    rename_i hplace
    have hplain := PlainNumber.whole (hwritten.append (hzeros (place - 1074)))
    rwa [ofDigits, List.append_nil, Nat.ofDigitChars_append, hread, Nat.ofDigitChars_replicate_zero,
      Nat.mul_comm, List.length_nil, Int.ofNat_zero, Int.sub_zero,
      ofDecimal_of_le hpos hrank h hplace] at hplain
  · rename_i hplace
    have hvalue := ofDecimal_of_lt hpos hrank h (by omega)
    have hfraction : 0 < 1074 - place := by omega
    generalize 1074 - place = count at hvalue hfraction
    split
    · -- The point stands among the digits.
      rename_i hcount
      have hwhole : Digits (written.take (written.length - count)) :=
        ⟨List.ne_nil_of_length_pos (by rw [List.length_take]; omega),
          fun c hc => hwritten.all c (List.mem_of_mem_take hc)⟩
      have hrest : Digits (written.drop (written.length - count)) :=
        ⟨List.ne_nil_of_length_pos (by rw [List.length_drop]; omega),
          fun c hc => hwritten.all c (List.mem_of_mem_drop hc)⟩
      have hplain := PlainNumber.fraction hwhole hrest
      rwa [ofDigits, List.take_append_drop, hread, List.length_drop, Nat.sub_sub_self hcount.le,
        hvalue] at hplain
    · -- The point stands before the digits, with zeros in between.
      rename_i hcount
      have hrest : Digits (List.replicate (count - written.length) '0' ++ written) := by
        refine ⟨by simp [hwritten.ne_nil], fun c hc => ?_⟩
        rcases List.mem_append.1 hc with hc | hc
        · exact hzeros _ c hc
        · exact hwritten.all c hc
      have hplain := PlainNumber.fraction digits_zero hrest
      have hlength : count - written.length + written.length = count := by omega
      have hzero : Nat.ofDigitChars 10 ['0'] 0 = 0 := by decide
      rwa [ofDigits, Nat.ofDigitChars_append, Nat.ofDigitChars_append, hzero,
        Nat.ofDigitChars_replicate_zero, Nat.mul_zero, hread, List.length_append,
        List.length_replicate, hlength, hvalue] at hplain

theorem ofRank_rank {x : Binary64} (h : x.isNegative = false) : ofRank false x.rank = x := by
  have hlt := x.bits.toNat_lt
  rw [isNegative, decide_eq_false_iff_not, rankLimit] at h
  have hrank : x.rank = x.bits.toNat := Nat.mod_eq_of_lt (by rw [rankLimit]; omega)
  rw [ofRank, hrank]
  simp

theorem plainNumber_letters {x : Binary64} (hf : x.isFinite = true) (hn : x.isNegative = false) :
    PlainNumber x.letters x := by
  rw [letters, if_neg (by rw [isNaN_eq_false hf]; decide), if_neg (by rw [hn]; decide),
    if_neg (by rw [isInfinite_eq_false hf]; decide), List.nil_append]
  by_cases hzero : x.isZero = true
  · rw [if_pos hzero]
    have hplain := PlainNumber.whole digits_zero
    have hvalue : ofDigits ['0'] [] 0 = ofRank false 0 := by decide
    rw [isZero, decide_eq_true_eq] at hzero
    rwa [hvalue, ← hzero, ofRank_rank hn] at hplain
  · rw [if_neg hzero]
    rw [isZero, decide_eq_true_eq] at hzero
    have hpos := Nat.pos_of_ne_zero hzero
    obtain ⟨⟨digits, place⟩, hs⟩ : ∃ parts, (RoundingInterval.ofRank x.rank).shortest = parts :=
      ⟨_, rfl⟩
    have hplain := plainNumber_positional hpos (rank_le_of_isFinite hf) (contains_shortest hpos hs)
    rw [ofRank_rank hn] at hplain
    rw [hs]
    exact hplain

end TrackGrid.Binary64
