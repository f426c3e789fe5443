import SqlInterval.Decimal.Text
import SqlInterval.Json.Basic
import SqlInterval.Proofs.Decimal.Order

/-!
# Reading back decimals

Both forms of a decimal show its sign and its digits, before and after a point; the short form may have an
exponent. From these parts the number is found again, and the plain form shows its scale as well unless
that is negative.
-/

namespace SqlInterval.Decimal

variable {d : Decimal} {negative : Bool} {lead trail mark ds : List Char} {e : Int}

/-- A point and the digits after it, if there are any. -/
def pointed (ds : List Char) : List Char := if ds = [] then [] else '.' :: ds

def signText (negative : Bool) : List Char := if negative then ['-'] else []

/-- What the digits before and after the point denote, under a sign and with an exponent. -/
def ofDigits (negative : Bool) (lead trail : List Char) (e : Int) : Decimal :=
  ⟨if negative then -(Numeral.value (lead ++ trail) : Int) else Numeral.value (lead ++ trail),
    trail.length - e⟩

theorem signChars_eq (d : Decimal) : d.signChars = signText (d.unscaled < 0) := by
  simp only [signChars, signText, decide_eq_true_eq]

/-! ## Reading -/

theorem digitsOrGaps?_digits (hds : ∀ c ∈ ds, c.isDigit) :
    digitsOrGaps? ds = some (Numeral.value ds) := by
  have hall : ds.all (fun c => c.isDigit || c = '_') = true :=
    List.all_eq_true.mpr fun c hc => by rw [hds c hc, Bool.true_or]
  rw [digitsOrGaps?, if_pos hall, List.filter_eq_self.mpr hds]

theorem readNatural?_digits (hds : ∀ c ∈ ds, c.isDigit) (hne : ds ≠ []) :
    readNatural? ds = some (Numeral.value ds) := by
  have hdigits := digitsOrGaps?_digits hds
  unfold readNatural?
  split
  case h_1 => exact absurd rfl hne
  case h_6 => exact hdigits
  -- All other texts begin with a character that is no digit.
  all_goals exact absurd (hds _ List.mem_cons_self) (by decide)

theorem ne_of_digit {c d : Char} (hc : c.isDigit) (hd : d.isDigit = false) : c ≠ d := by
  rintro rfl
  exact Bool.false_ne_true (hd.symm.trans hc)

theorem readInteger?_digits (hds : ∀ c ∈ ds, c.isDigit) (hne : ds ≠ []) :
    readInteger? (signText negative ++ ds) =
      some (if negative then -(Numeral.value ds : Int) else Numeral.value ds) := by
  have hnatural := readNatural?_digits hds hne
  obtain ⟨c, cs, rfl⟩ := List.exists_cons_of_ne_nil hne
  have hc := hds c List.mem_cons_self
  cases negative with
  | true =>
      have hplus : c ≠ '+' := ne_of_digit hc rfl
      simp [signText, readInteger?, hplus, hnatural]
  | false =>
      have hminus : c ≠ '-' := ne_of_digit hc rfl
      simp [signText, readInteger?, hminus, hnatural]

theorem readExponent?_int (z : Int) :
    readExponent? (Numeral.int z) = some z ∧
      (0 ≤ z → readExponent? ('+' :: Numeral.int z) = some z) := by
  have hdigits := Numeral.nat_digits z.natAbs
  have hne := Numeral.nat_ne_nil z.natAbs
  have hread : readDigits? (Numeral.nat z.natAbs) = some z.natAbs := by
    rw [readDigits?, if_pos ⟨hne, List.all_eq_true.mpr hdigits⟩, Numeral.value_nat]
  by_cases hz : z < 0
  · have habs : -(z.natAbs : Int) = z := by omega
    refine ⟨?_, fun h => absurd hz (Int.not_lt.mpr h)⟩
    rw [Numeral.int, if_pos hz, readExponent?, hread]
    exact congrArg some habs
  · have habs : (z.natAbs : Int) = z := by omega
    rw [Numeral.int, if_neg hz]
    obtain ⟨c, cs, hcs⟩ := List.exists_cons_of_ne_nil hne
    have hc := hdigits c (hcs ▸ List.mem_cons_self)
    rw [hcs] at hread ⊢
    constructor
    · unfold readExponent?
      split
      case h_3 => rw [hread, Option.map_some, Int.ofNat_eq_natCast, habs]
      all_goals
        rename_i heq
        obtain ⟨rfl, -⟩ := List.cons.inj heq
        exact absurd hc (by decide)
    · intro _
      rw [readExponent?, hread, Option.map_some, Int.ofNat_eq_natCast, habs]

/-- Nothing, or a mark and an exponent. -/
inductive ExponentText : List Char → Int → Prop where
  | none : ExponentText [] 0
  | mark {c : Char} {ds : List Char} {e : Int} (hc : isExponentMark c)
      (h : readExponent? ds = some e) : ExponentText (c :: ds) e

theorem ExponentText.stops (h : ExponentText mark e) : Stops (!isExponentMark ·) mark := by
  cases h with
  | none => trivial
  | mark hc => exact congrArg not hc

theorem stops_pointed (ds : List Char) : Stops (· ≠ '.') (pointed ds) := by
  unfold pointed
  split
  · trivial
  · rfl

theorem tail_pointed (ds : List Char) : (pointed ds).tail = ds := by
  unfold pointed
  split
  · rename_i hds
    exact hds.symm
  · rfl

theorem not_mark_of_digit {c : Char} (hc : c.isDigit) : (!isExponentMark c) = true := by
  have hlower : c ≠ 'e' := ne_of_digit hc rfl
  have hupper : c ≠ 'E' := ne_of_digit hc rfl
  simp only [isExponentMark, hlower, hupper, decide_false, Bool.or_false, Bool.not_false]

theorem forall_mem_signText {p : Char → Bool} (hp : p '-' = true) :
    ∀ c ∈ signText negative, p c = true := by
  intro c hc
  cases negative with
  | true =>
      obtain rfl := List.mem_singleton.mp hc
      exact hp
  | false => exact absurd hc List.not_mem_nil

theorem forall_mem_pointed {p : Char → Bool} (hp : p '.' = true) (hds : ∀ c ∈ ds, p c = true) :
    ∀ c ∈ pointed ds, p c = true := by
  unfold pointed
  split
  · exact fun _ hc => absurd hc List.not_mem_nil
  · exact List.forall_mem_cons.mpr ⟨hp, hds⟩

/-- The text shows the decimal: its digits with the sign in front of them, the point among them and the
exponent after them. -/
inductive Shows : List Char → Decimal → Prop where
  | intro {negative : Bool} {lead trail mark : List Char} {e : Int} (hlead : ∀ c ∈ lead, c.isDigit)
      (htrail : ∀ c ∈ trail, c.isDigit) (hne : lead ≠ []) (he : ExponentText mark e) :
      Shows (signText negative ++ lead ++ pointed trail ++ mark) (ofDigits negative lead trail e)

theorem Shows.read? {cs : List Char} (h : Shows cs d) (hmin : Int64.minValue.toInt ≤ d.scale)
    (hmax : d.scale ≤ Int64.maxValue.toInt) : Decimal.read? cs = some d := by
  obtain @⟨negative, lead, trail, mark, e, hlead, htrail, hne, he⟩ := h
  simp only [ofDigits] at hmin hmax
  have hfront : ∀ c ∈ signText negative ++ lead, decide (c ≠ '.') = true :=
    List.forall_mem_append.mpr ⟨forall_mem_signText rfl,
      fun c hc => decide_eq_true (ne_of_digit (hlead c hc) rfl)⟩
  have hbase : ∀ c ∈ signText negative ++ lead ++ pointed trail, (!isExponentMark c) = true :=
    List.forall_mem_append.mpr ⟨List.forall_mem_append.mpr
      ⟨forall_mem_signText rfl, fun c hc => not_mark_of_digit (hlead c hc)⟩,
      forall_mem_pointed rfl fun c hc => not_mark_of_digit (htrail c hc)⟩
  have hbase_ne : signText negative ++ lead ++ pointed trail ≠ [] := by
    simp only [ne_eq, List.append_eq_nil_iff, hne, and_false, false_and, not_false_eq_true]
  have hpoint := stops_pointed trail
  have htake := hpoint.takeWhile_append hfront
  have hdrop := hpoint.dropWhile_append hfront
  have hfilter : trail.filter (· ≠ '_') = trail :=
    List.filter_eq_self.mpr fun c hc => decide_eq_true (ne_of_digit (htrail c hc) rfl)
  have hinteger : readInteger? (signText negative ++ lead ++ trail) =
      some (ofDigits negative lead trail e).unscaled := by
    rw [List.append_assoc]
    exact readInteger?_digits (List.forall_mem_append.mpr ⟨hlead, htrail⟩)
      (List.append_ne_nil_of_left_ne_nil hne _)
  have hscale : ¬ (signText negative ++ lead ++ pointed trail = [] ∨
      (trail.length : Int) - e < Int64.minValue.toInt ∨
        Int64.maxValue.toInt < (trail.length : Int) - e) := by
    simp only [hbase_ne, false_or]
    omega
  have hstops := he.stops
  have htakeBase := hstops.takeWhile_append hbase
  have hdropBase := hstops.dropWhile_append hbase
  cases he with
  | none =>
      simp only [Decimal.read?, htakeBase, hdropBase, htake, hdrop, tail_pointed, hfilter, if_neg hscale,
        hinteger, Option.bind_eq_bind, Option.bind_some]
      rfl
  | mark hc hread =>
      simp only [Decimal.read?, htakeBase, hdropBase, hread, htake, hdrop, tail_pointed, hfilter,
        if_neg hscale, hinteger, Option.bind_eq_bind, Option.bind_some]
      rfl

/-! ## The plain form -/

theorem ofDigits_eq (hn : negative = true ↔ d.unscaled < 0)
    (h : Numeral.value (lead ++ trail) = d.unscaled.natAbs) (hs : trail.length - e = d.scale) :
    ofDigits negative lead trail e = d := by
  obtain ⟨unscaled, scale⟩ := d
  dsimp only at hn h hs
  simp only [ofDigits, h, hs, hn, mk.injEq, and_true]
  split <;> omega

theorem extend_neg (k : Nat) : (d.extend k).unscaled < 0 ↔ d.unscaled < 0 := by
  have hpow : (0 : Int) < 10 ^ k := Int.pow_pos (by decide)
  refine ⟨fun h => ?_, fun h => Int.mul_neg_of_neg_of_pos h hpow⟩
  exact Int.not_le.mp fun hle => Int.not_lt.mpr (Int.mul_nonneg hle (Int.le_of_lt hpow)) h

theorem zeros_digits (k : Nat) : ∀ c ∈ zeros k, c.isDigit := by
  intro c hc
  rw [List.eq_of_mem_replicate hc]
  rfl

/-- The digits before and after the point of the plain form. As many stand after it as the scale says,
unless that is negative: then the digits before the point end in zeros. -/
structure PlainDigits (d : Decimal) (lead trail : List Char) : Prop where
  lead_digits : ∀ c ∈ lead, c.isDigit
  trail_digits : ∀ c ∈ trail, c.isDigit
  lead_ne_nil : lead ≠ []
  text : d.plainMagnitude = lead ++ pointed trail
  number : ofDigits (d.unscaled < 0) lead trail 0 = d.extend (-d.scale).toNat

theorem plainDigits_of_no_point (hs : d.scale ≤ 0) :
    PlainDigits d (Numeral.nat d.unscaled.natAbs ++ zeros d.scale.natAbs) [] := by
  have habs : d.scale.natAbs = (-d.scale).toNat := by omega
  refine ⟨List.forall_mem_append.mpr ⟨Numeral.nat_digits _, zeros_digits _⟩,
    fun _ hc => absurd hc List.not_mem_nil,
    List.append_ne_nil_of_left_ne_nil (Numeral.nat_ne_nil _) _, ?_,
    ofDigits_eq (decide_eq_true_iff.trans (extend_neg _).symm) ?_ ?_⟩
  · rw [plainMagnitude, if_pos hs, pointed, if_pos rfl, List.append_nil]
  · rw [List.append_nil, zeros, Numeral.value_append_zeros, Numeral.value_nat, habs, extend,
      Int.natAbs_mul, Int.natAbs_pow]
    rfl
  · simp only [extend, List.length_nil]
    omega

theorem extend_of_pos (hs : 0 < d.scale) : d.extend (-d.scale).toNat = d := by
  have hzero : (-d.scale).toNat = 0 := by omega
  simp [hzero, extend]

theorem plainDigits_of_point (hs : 0 < d.scale)
    (hlen : d.scale.toNat < (Numeral.nat d.unscaled.natAbs).length) :
    PlainDigits d
      ((Numeral.nat d.unscaled.natAbs).take ((Numeral.nat d.unscaled.natAbs).length - d.scale.toNat))
      ((Numeral.nat d.unscaled.natAbs).drop
        ((Numeral.nat d.unscaled.natAbs).length - d.scale.toNat)) := by
  have hdigits := Numeral.nat_digits d.unscaled.natAbs
  have hne := Numeral.nat_ne_nil d.unscaled.natAbs
  have hvalue := Numeral.value_nat d.unscaled.natAbs
  have hmagnitude : d.plainMagnitude = _ := if_neg (Int.not_le.mpr hs)
  rw [if_pos hlen] at hmagnitude
  have hextend := extend_of_pos hs
  generalize Numeral.nat d.unscaled.natAbs = digits at *
  have hdrop : digits.drop (digits.length - d.scale.toNat) ≠ [] := by
    rw [ne_eq, List.drop_eq_nil_iff]
    omega
  refine ⟨fun c hc => hdigits c (List.mem_of_mem_take hc),
    fun c hc => hdigits c (List.mem_of_mem_drop hc), ?_, ?_,
    hextend.symm ▸ ofDigits_eq decide_eq_true_iff ?_ ?_⟩
  · rw [ne_eq, List.take_eq_nil_iff, not_or]
    exact ⟨by omega, hne⟩
  · rw [hmagnitude, pointed, if_neg hdrop]
  · rw [List.take_append_drop, hvalue]
  · rw [List.length_drop]
    omega

theorem plainDigits_of_zero_lead (hs : 0 < d.scale)
    (hlen : ¬ d.scale.toNat < (Numeral.nat d.unscaled.natAbs).length) :
    PlainDigits d ['0'] (zeros (d.scale.toNat - (Numeral.nat d.unscaled.natAbs).length) ++
      Numeral.nat d.unscaled.natAbs) := by
  have hne := Numeral.nat_ne_nil d.unscaled.natAbs
  refine ⟨zeros_digits 1, List.forall_mem_append.mpr ⟨zeros_digits _, Numeral.nat_digits _⟩,
    List.cons_ne_nil _ _, ?_, (extend_of_pos hs).symm ▸ ofDigits_eq decide_eq_true_iff ?_ ?_⟩
  · rw [plainMagnitude, if_neg (Int.not_le.mpr hs), if_neg hlen, pointed,
      if_neg (List.append_ne_nil_of_right_ne_nil _ hne)]
    rfl
  · rw [← List.append_assoc]
    exact (Numeral.value_zeros_append (_ + 1) _).trans (Numeral.value_nat _)
  · rw [List.length_append, zeros, List.length_replicate]
    omega

theorem exists_plainDigits (d : Decimal) : ∃ lead trail, PlainDigits d lead trail := by
  by_cases hs : d.scale ≤ 0
  · exact ⟨_, _, plainDigits_of_no_point hs⟩
  · by_cases hlen : d.scale.toNat < (Numeral.nat d.unscaled.natAbs).length
    · exact ⟨_, _, plainDigits_of_point (Int.not_le.mp hs) hlen⟩
    · exact ⟨_, _, plainDigits_of_zero_lead (Int.not_le.mp hs) hlen⟩

theorem plain_shows (d : Decimal) : Shows d.plain (d.extend (-d.scale).toNat) := by
  obtain ⟨lead, trail, h⟩ := d.exists_plainDigits
  rw [← h.number, plain, h.text, signChars_eq, ← List.append_assoc, ← List.append_nil (_ ++ _)]
  exact .intro h.lead_digits h.trail_digits h.lead_ne_nil .none

/-! ## What the plain form shows -/

section Shown

variable {r s : List Char} {a b : Decimal}

theorem signText_append_inj {m n : Bool} {cs ds : List Char} (hcs : ∀ c ∈ cs, c.isDigit)
    (hds : ∀ c ∈ ds, c.isDigit) (hcne : cs ≠ []) (hdne : ds ≠ [])
    (h : signText m ++ (cs ++ r) = signText n ++ (ds ++ s)) : m = n ∧ cs ++ r = ds ++ s := by
  have hminus {cs t u : List Char} (h : ∀ c ∈ cs, c.isDigit) (hne : cs ≠ []) :
      cs ++ t ≠ '-' :: u := (begins_digit h hne).ne_cons (by decide)
  cases m <;> cases n
  · exact ⟨rfl, h⟩
  · have h : cs ++ r = '-' :: (ds ++ s) := h
    exact absurd h (hminus hcs hcne)
  · have h : '-' :: (cs ++ r) = ds ++ s := h
    exact absurd h.symm (hminus hds hdne)
  · exact ⟨rfl, (List.cons.inj h).2⟩

theorem pointed_append_inj {cs : List Char} (hds : ∀ c ∈ ds, c.isDigit) (hcs : ∀ c ∈ cs, c.isDigit)
    (hr : Stops isFractionChar r) (hs : Stops isFractionChar s)
    (h : pointed ds ++ r = pointed cs ++ s) : ds = cs ∧ r = s := by
  unfold pointed at h
  split at h <;> split at h
  · rename_i hd hc
    exact ⟨hd.trans hc.symm, h⟩
  · exact absurd h hr.no_point
  · exact absurd h.symm hs.no_point
  · exact hr.digits.append_inj hs.digits hds hcs (List.cons.inj h).2

theorem stops_pointed_append (hr : Stops isFractionChar r) (ds : List Char) :
    Stops Char.isDigit (pointed ds ++ r) := by
  unfold pointed
  split
  · exact hr.digits
  · rfl

/-- The plain form gives the number, though not the scale if that is negative. -/
theorem plain_append_inj (hr : Stops isFractionChar r) (hs : Stops isFractionChar s)
    (h : a.plain ++ r = b.plain ++ s) : a.toRat = b.toRat ∧ r = s := by
  obtain ⟨lead, trail, ha⟩ := a.exists_plainDigits
  obtain ⟨lead', trail', hb⟩ := b.exists_plainDigits
  simp only [plain, ha.text, hb.text, signChars_eq, List.append_assoc] at h
  obtain ⟨hsign, h⟩ :=
    signText_append_inj ha.lead_digits hb.lead_digits ha.lead_ne_nil hb.lead_ne_nil h
  obtain ⟨rfl, htail⟩ := (stops_pointed_append hr trail).append_inj (stops_pointed_append hs trail')
    ha.lead_digits hb.lead_digits h
  obtain ⟨rfl, hrest⟩ := pointed_append_inj ha.trail_digits hb.trail_digits hr hs htail
  have hnumber := hb.number
  rw [← hsign, ha.number] at hnumber
  exact ⟨by rw [← toRat_extend _ a, hnumber, toRat_extend], hrest⟩

end Shown

theorem plain_ofInt (z : Int) : (ofInt z).plain = Numeral.int z := by
  have hmagnitude : (ofInt z).plainMagnitude = Numeral.nat z.natAbs := List.append_nil _
  rw [plain, hmagnitude]
  by_cases hz : z < 0 <;> simp [signChars, Numeral.int, ofInt, hz]

/-! ## The short form -/

theorem pointAfterFirst_cons (c : Char) (cs : List Char) :
    pointAfterFirst (c :: cs) = [c] ++ pointed cs := by
  cases cs <;> rfl

/-- All digits of the unscaled number, with an exponent that makes up for where the point is put. -/
theorem shows_of_digits (h : Numeral.nat d.unscaled.natAbs = lead ++ trail) (hne : lead ≠ [])
    (he : ExponentText mark e) (hs : trail.length - e = d.scale) :
    Shows (d.signChars ++ lead ++ pointed trail ++ mark) d := by
  have hdigits := Numeral.nat_digits d.unscaled.natAbs
  rw [h] at hdigits
  have hd : ofDigits (d.unscaled < 0) lead trail e = d :=
    ofDigits_eq decide_eq_true_iff (by rw [← h, Numeral.value_nat]) hs
  have hshows : Shows (signText (d.unscaled < 0) ++ lead ++ pointed trail ++ mark)
      (ofDigits (d.unscaled < 0) lead trail e) :=
    .intro (fun c hc => hdigits c (List.mem_append_left _ hc))
      (fun c hc => hdigits c (List.mem_append_right _ hc)) hne he
  rwa [hd, ← signChars_eq] at hshows

/-- The scale stays as it is, unless the number is zero or shows zeros that its scale leaves out. -/
theorem short_shows (d : Decimal) :
    ∃ e, Shows d.short e ∧ e.toRat = d.toRat ∧ (e.scale = d.scale ∨ e.scale = 0) := by
  have hne := Numeral.nat_ne_nil d.unscaled.natAbs
  unfold short
  dsimp only
  split
  case isTrue hzero =>
    have hunscaled : d.unscaled = 0 := of_decide_eq_true hzero
    refine ⟨⟨0, 0⟩, ?_, ?_, .inr rfl⟩
    · have hdigits : Numeral.nat (0 : Int).natAbs = ['0'] ++ [] := rfl
      exact shows_of_digits (d := ⟨0, 0⟩) hdigits (List.cons_ne_nil _ _) .none rfl
    · simp [toRat, hunscaled]
  split
  case isTrue =>
    obtain ⟨c, cs, hcs⟩ := List.exists_cons_of_ne_nil hne
    have hexponent := (readExponent?_int ((Numeral.nat d.unscaled.natAbs).length - d.scale - 1)).1
    refine ⟨d, ?_, rfl, .inl rfl⟩
    rw [hcs] at hexponent ⊢
    rw [pointAfterFirst_cons, ← List.append_assoc]
    refine shows_of_digits hcs (List.cons_ne_nil _ _) (.mark rfl hexponent) ?_
    simp only [List.length_cons]
    omega
  split
  case isTrue h =>
    have hexponent := (readExponent?_int (-d.scale)).2 (Int.le_trans (by decide) (Int.le_of_lt h))
    refine ⟨d, ?_, rfl, .inl rfl⟩
    have hdigits := (List.append_nil (Numeral.nat d.unscaled.natAbs)).symm
    rw [← List.append_nil (d.signChars ++ _)]
    refine shows_of_digits hdigits hne (.mark rfl hexponent) ?_
    simp only [List.length_nil]
    omega
  case isFalse =>
    refine ⟨_, d.plain_shows, toRat_extend _ d, ?_⟩
    simp only [extend]
    omega

/-- The short form is read as the same number. -/
theorem read?_short (hmin : Int32.minValue.toInt ≤ d.scale) (hmax : d.scale ≤ Int32.maxValue.toInt) :
    ∃ e, read? d.short = some e ∧ e.toRat = d.toRat := by
  have h32 : Int64.minValue.toInt ≤ Int32.minValue.toInt ∧
      Int32.maxValue.toInt ≤ Int64.maxValue.toInt := by decide
  have h0 : Int64.minValue.toInt ≤ 0 ∧ 0 ≤ Int64.maxValue.toInt := by decide
  obtain ⟨e, hshows, hrat, hscale⟩ := d.short_shows
  exact ⟨e, hshows.read? (by omega) (by omega), hrat⟩

end SqlInterval.Decimal
