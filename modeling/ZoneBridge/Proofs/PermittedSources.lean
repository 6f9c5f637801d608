import Mathlib
import ZoneBridge.Event

/-!
# Permitted sources

A zone's configuration lists its permitted sources as the amplifier spells them: `SOURCE1`,
`SOURCE4`, …. An entry names source `m` when it is `SOURCE` followed by an unsigned numeral of
value `m`: an optional `+`, then one or more ASCII digits, leading zeros allowed
(`PermittedSource`). `Permits L ids` reads a list entry by entry under that grammar: an entry
naming a source up to 255 gives its id, and every other entry is skipped.

The reader of 8-bit unsigned numbers accepts exactly the numerals of value at most 255
(`readU8_eq_some_iff`, `readU8_eq_none_iff`), so `sourceIds` gives, for every list, exactly the
ids the grammar reads off it, in order and with repetitions (`sourceIds_eq_iff_permits`).
-/

namespace ZoneBridge

/-- `UnsignedNumeral t m`: the text `t` is an optional `+` followed by one or more ASCII digits
whose decimal value is `m`; leading zeros are allowed. -/
inductive UnsignedNumeral : String → Nat → Prop
  | mk (sign : String) (ds : List Char) :
      sign = "" ∨ sign = "+" → ds ≠ [] → (∀ c ∈ ds, c.isDigit) →
      UnsignedNumeral (sign ++ String.ofList ds)
        (Nat.ofDigits 10 (ds.reverse.map fun c => c.toNat - '0'.toNat))

/-- `PermittedSource s m`: the entry `s` names source `m`, being `SOURCE` followed by an unsigned
numeral of value `m`. -/
def PermittedSource (s : String) (m : Nat) : Prop :=
  ∃ t, s = "SOURCE" ++ t ∧ UnsignedNumeral t m

/-- `Permits L ids`: read entry by entry, the permitted-source list `L` gives the ids `ids`. An
entry naming a source up to 255 gives its id; every other entry, naming no source or one above
255, is skipped. -/
inductive Permits : List String → List UInt8 → Prop
  | nil : Permits [] []
  | source {s : String} {L : List String} {ids : List UInt8} (n : UInt8) :
      PermittedSource s n.toNat → Permits L ids → Permits (s :: L) (n :: ids)
  | skip {s : String} {L : List String} {ids : List UInt8} :
      (∀ m, PermittedSource s m → 255 < m) → Permits L ids → Permits (s :: L) ids

namespace Decimal

theorem digitsValue_append_singleton (ds : List Char) (c : Char) :
    digitsValue (ds ++ [c]) = digitsValue ds * 10 + (c.toNat - '0'.toNat) := by
  simp [digitsValue, List.foldl_append]

/-- Reading digits from the most significant one, multiplying by ten at each, gives their
positional value. -/
theorem digitsValue_eq_ofDigits (ds : List Char) :
    digitsValue ds = Nat.ofDigits 10 (ds.reverse.map fun c => c.toNat - '0'.toNat) := by
  induction ds using List.reverseRecOn with
  | nil => rfl
  | append_singleton ds c ih =>
    rw [digitsValue_append_singleton, ih]
    simp [Nat.ofDigits_cons]
    ring

end Decimal

/-! ## Unsigned numerals -/

theorem isUnsignedText_iff {cs : List Char} :
    isUnsignedText cs = true ↔
      ∃ sign ds, (sign = [] ∨ sign = ['+']) ∧ ds ≠ [] ∧ (∀ c ∈ ds, c.isDigit) ∧ cs = sign ++ ds := by
  rcases cs with _ | ⟨c, rest⟩
  · simp [isUnsignedText]
  · -- the `+` is taken off only at the head; a `+` among the digits is no digit
    by_cases hc : c = '+'
    · subst hc
      simp [isUnsignedText]
    · simp [isUnsignedText, hc]

theorem filter_isDigit_sign_append {sign ds : List Char} (hsign : sign = [] ∨ sign = ['+'])
    (hds : ∀ c ∈ ds, c.isDigit) : (sign ++ ds).filter Char.isDigit = ds := by
  rcases hsign with rfl | rfl <;> simpa [List.filter_eq_self] using hds

/-- The grammar of an unsigned numeral on the characters of its text: a sign of at most one `+`,
then the digits, whose value is read from the most significant one. -/
theorem unsignedNumeral_iff {t : String} {m : Nat} :
    UnsignedNumeral t m ↔ ∃ sign ds, (sign = [] ∨ sign = ['+']) ∧ ds ≠ [] ∧
      (∀ c ∈ ds, c.isDigit) ∧ t.toList = sign ++ ds ∧ Decimal.digitsValue ds = m := by
  constructor
  · rintro ⟨sign, ds, hsign, hne, hds⟩
    refine ⟨sign.toList, ds, ?_, hne, hds, by simp, Decimal.digitsValue_eq_ofDigits ds⟩
    rcases hsign with rfl | rfl <;> simp
  · rintro ⟨sign, ds, hsign, hne, hds, hcs, rfl⟩
    have ht : t = String.ofList sign ++ String.ofList ds := String.toList_inj.1 (by simp [hcs])
    subst ht
    rw [Decimal.digitsValue_eq_ofDigits]
    refine .mk _ ds ?_ hne hds
    rcases hsign with rfl | rfl
    · exact .inl rfl
    · exact .inr rfl

/-- An 8-bit number is read from exactly the unsigned numerals of its value. -/
theorem readU8_eq_some_iff {t : String} {n : UInt8} :
    readU8 t = some n ↔ UnsignedNumeral t n.toNat := by
  constructor
  · intro h
    dsimp only [readU8] at h
    split_ifs at h with hu hv
    obtain ⟨sign, ds, hsign, hne, hds, hcs⟩ := isUnsignedText_iff.1 hu
    rw [hcs, filter_isDigit_sign_append hsign hds] at hv h
    have hn : n.toNat = Decimal.digitsValue ds := by
      rw [← Option.some.inj h]
      simp
      omega
    exact unsignedNumeral_iff.2 ⟨sign, ds, hsign, hne, hds, hcs, hn.symm⟩
  · intro h
    obtain ⟨sign, ds, hsign, hne, hds, hcs, hval⟩ := unsignedNumeral_iff.1 h
    have hu : isUnsignedText (sign ++ ds) := isUnsignedText_iff.2 ⟨sign, ds, hsign, hne, hds, rfl⟩
    have hn : n.toNat ≤ 255 := by have := n.toNat_lt; omega
    simp [readU8, hu, hcs, filter_isDigit_sign_append hsign hds, hval, hn]

/-- Nothing is read from a text exactly when it is no numeral up to 255: it is no unsigned
numeral at all, or its value overflows eight bits. -/
theorem readU8_eq_none_iff {t : String} : readU8 t = none ↔ ∀ m, UnsignedNumeral t m → 255 < m := by
  constructor
  · intro h m hm
    by_contra hle
    -- a numeral up to 255 would be read as itself
    have hsome : readU8 t = some m.toUInt8 := by
      apply readU8_eq_some_iff.2
      have hm' : m.toUInt8.toNat = m := by simp; omega
      rwa [hm']
    simp [h] at hsome
  · intro h
    cases hn : readU8 t with
    | none => rfl
    | some n =>
      have := h _ (readU8_eq_some_iff.1 hn)
      have := n.toNat_lt
      omega

/-! ## The prefix `SOURCE` -/

theorem startsWith_iff_exists_append {p s : String} : s.startsWith p = true ↔ ∃ t, s = p ++ t := by
  rw [String.startsWith_string_iff]
  constructor
  · rintro ⟨r, hr⟩
    exact ⟨String.ofList r, String.toList_inj.1 (by simp [hr])⟩
  · rintro ⟨t, rfl⟩
    exact ⟨t.toList, by simp⟩

theorem drop_length_append (p t : String) : ((p ++ t).drop p.length).toString = t := by
  apply String.toList_inj.1
  simp [String.Slice.toString_eq, String.toList_copy_drop, ← String.length_toList]

theorem sourceIds_cons_source (t : String) (L : List String) :
    sourceIds (("SOURCE" ++ t) :: L) = (readU8 t).toList ++ sourceIds L := by
  have hs : ("SOURCE" ++ t).startsWith "SOURCE" = true := startsWith_iff_exists_append.2 ⟨t, rfl⟩
  have hd : (("SOURCE" ++ t).drop 6).toString = t := drop_length_append "SOURCE" t
  simp only [sourceIds, List.filterMap_cons, hs, hd, if_true]
  cases readU8 t <;> rfl

theorem sourceIds_cons_of_not_source {s : String} (hs : ¬ ∃ t, s = "SOURCE" ++ t)
    (L : List String) : sourceIds (s :: L) = sourceIds L := by
  have hs' : s.startsWith "SOURCE" = false := by
    rw [← Bool.not_eq_true, startsWith_iff_exists_append]
    exact hs
  simp only [sourceIds, List.filterMap_cons, hs', Bool.false_eq_true, if_false]

/-! ## Reading a list of entries -/

theorem permits_sourceIds (L : List String) : Permits L (sourceIds L) := by
  induction L with
  | nil => exact .nil
  | cons s L ih =>
    by_cases hs : ∃ t, s = "SOURCE" ++ t
    · obtain ⟨t, rfl⟩ := hs
      rw [sourceIds_cons_source]
      cases hn : readU8 t with
      | none =>
        -- the rest after `SOURCE` is the only one the entry has
        refine .skip (fun m ⟨t', ht', hm⟩ => ?_) ih
        rw [String.append_right_inj] at ht'
        subst ht'
        exact readU8_eq_none_iff.1 hn m hm
      | some n => exact .source n ⟨t, rfl, readU8_eq_some_iff.1 hn⟩ ih
    · rw [sourceIds_cons_of_not_source hs]
      exact .skip (fun m ⟨t, ht, _⟩ => absurd ⟨t, ht⟩ hs) ih

/-- The grammar reads one list of ids off a list of entries. -/
theorem Permits.eq_sourceIds {L : List String} {ids : List UInt8} (h : Permits L ids) :
    ids = sourceIds L := by
  induction h with
  | nil => rfl
  | source n hn _ ih =>
    obtain ⟨t, rfl, ht⟩ := hn
    rw [sourceIds_cons_source, readU8_eq_some_iff.2 ht, ih]
    rfl
  | @skip s L ids hskip _ ih =>
    by_cases hs : ∃ t, s = "SOURCE" ++ t
    · obtain ⟨t, rfl⟩ := hs
      rw [sourceIds_cons_source, readU8_eq_none_iff.2 (fun m hm => hskip m ⟨t, rfl, hm⟩), ih]
      rfl
    · rw [sourceIds_cons_of_not_source hs, ih]

/-- The ids of a zone's permitted sources are exactly those the grammar reads off the list: the
values up to 255 of the entries spelled `SOURCE`, an optional `+` and decimal digits, in the
list's order and with repetitions, every other entry skipped. -/
theorem sourceIds_eq_iff_permits (L : List String) (ids : List UInt8) :
    sourceIds L = ids ↔ Permits L ids :=
  ⟨fun h => h ▸ permits_sourceIds L, fun h => h.eq_sourceIds.symm⟩

example :
    sourceIds ["SOURCE1", "SOURCE+004", "AUX", "SOURCE256", "SOURCE", "SOURCE-1", "SOURCE1"] =
      [1, 4, 1] := by
  decide +kernel

end ZoneBridge
