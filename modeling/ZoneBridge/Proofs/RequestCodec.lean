import Mathlib
import ZoneBridge.Proofs.EventCodec

/-!
# Requests read back what was written

A request goes out as an object with the one key `command` or `query`; its value names the
variant in a field of that same name, beside the variant's own fields. Reading the data back
gives the request again, as long as each 32-bit level a command carries holds a 32-bit value
(`Command.LevelsFit`).

The argument never computes the objects written. An object built by `Json.obj` holds exactly
the fields it was given, in key order (`Json.holds_obj`), and reading a record from fields held
so gives each field's reading whatever the order of the keys (`Command.decodeIn_pairRecord`,
`Command.decodeIn_tripleRecord`, `Query.decodeIn_record`). What is left is the tag: the field
naming the variant is found and filtered out of what the variant reads, and the outer key of the
same name belongs to another object.

Main statement: `Request.tagged_layout_roundtrip`.
-/

namespace ZoneBridge

namespace Json

/-- Fields `l` hold the fields `fs` in some order: each field of `l` is one of `fs`, and each key
of `fs` has a field in `l`. -/
structure Holds (l fs : List (String × Json)) : Prop where
  mem : ∀ p ∈ l, p ∈ fs
  key : ∀ p ∈ fs, ∃ v, (p.1, v) ∈ l

namespace Holds

variable {l fs gs : List (String × Json)}

theorem trans (h₁ : Holds l fs) (h₂ : Holds fs gs) : Holds l gs where
  mem p hp := h₂.mem p (h₁.mem p hp)
  key p hp := by
    obtain ⟨v, hv⟩ := h₂.key p hp
    exact h₁.key (p.1, v) hv

theorem append_left (h : Holds l fs) (gs : List (String × Json)) : Holds (gs ++ l) (gs ++ fs) where
  mem p hp := by
    rcases List.mem_append.1 hp with hp | hp
    · exact List.mem_append_left _ hp
    · exact List.mem_append_right _ (h.mem p hp)
  key p hp := by
    rcases List.mem_append.1 hp with hp | hp
    · exact ⟨p.2, List.mem_append_left _ hp⟩
    · obtain ⟨v, hv⟩ := h.key p hp
      exact ⟨v, List.mem_append_right _ hv⟩

theorem filter (h : Holds l fs) (k : String) :
    Holds (l.filter (·.1 != k)) (fs.filter (·.1 != k)) where
  mem p hp := by
    rw [List.mem_filter] at hp ⊢
    exact ⟨h.mem p hp.1, hp.2⟩
  key p hp := by
    rw [List.mem_filter] at hp
    obtain ⟨v, hv⟩ := h.key p hp.1
    exact ⟨v, List.mem_filter.2 ⟨hv, hp.2⟩⟩

/-- A key of `fs` with one value there has that value in `l`. -/
theorem lookup (h : Holds l fs) {k : String} {v : Json} (hk : (k, v) ∈ fs)
    (hu : ∀ w, (k, w) ∈ fs → w = v) : l.lookup k = some v := by
  obtain ⟨w, hw⟩ := h.key (k, v) hk
  have hl : ∀ w, (k, w) ∈ l → w = v := fun w hw => hu w (h.mem _ hw)
  clear hk hu h
  -- the first field of key `k` is the one found, and every such field holds `v`
  induction l with
  | nil => cases hw
  | cons p rest ih =>
    obtain ⟨k', w'⟩ := p
    by_cases hkk : k = k'
    · subst hkk
      simp [hl w' (by simp)]
    · have hb : (k == k') = false := beq_eq_false_iff_ne.2 hkk
      rw [List.lookup_cons, hb]
      exact ih (by simpa [hkk] using hw) (fun w hw => hl w (List.mem_cons_of_mem _ hw))

end Holds

theorem mem_insertField {k : String} {v : Json} {l : List (String × Json)} {p : String × Json}
    (h : p ∈ insertField k v l) : p = (k, v) ∨ p ∈ l := by
  induction l with
  | nil => simpa [insertField] using h
  | cons q rest ih =>
    obtain ⟨k', v'⟩ := q
    unfold insertField at h
    split_ifs at h with hlt heq
    · simpa using h
    · rcases List.mem_cons.1 h with h | h
      · exact .inl h
      · exact .inr (List.mem_cons_of_mem _ h)
    · rcases List.mem_cons.1 h with h | h
      · exact .inr (h ▸ List.mem_cons_self)
      · exact (ih h).imp_right (List.mem_cons_of_mem _)

theorem key_insertField (k : String) (v : Json) (l : List (String × Json)) {p : String × Json}
    (hp : p ∈ (k, v) :: l) : ∃ w, (p.1, w) ∈ insertField k v l := by
  induction l with
  | nil => exact ⟨v, by simp [insertField, List.mem_singleton.1 hp]⟩
  | cons q rest ih =>
    obtain ⟨k', v'⟩ := q
    unfold insertField
    split_ifs with hlt heq
    · exact ⟨p.2, hp⟩
    · -- the new value replaces the field of the same key
      rcases List.mem_cons.1 hp with rfl | hp
      · exact ⟨v, List.mem_cons_self⟩
      rcases List.mem_cons.1 hp with rfl | hp
      · exact ⟨v, by simp [beq_iff_eq.1 heq]⟩
      · exact ⟨p.2, List.mem_cons_of_mem _ hp⟩
    · rcases List.mem_cons.1 hp with rfl | hp
      · obtain ⟨w, hw⟩ := ih List.mem_cons_self
        exact ⟨w, List.mem_cons_of_mem _ hw⟩
      rcases List.mem_cons.1 hp with rfl | hp
      · exact ⟨v', List.mem_cons_self⟩
      · obtain ⟨w, hw⟩ := ih (List.mem_cons_of_mem _ hp)
        exact ⟨w, List.mem_cons_of_mem _ hw⟩

theorem holds_insertField (k : String) (v : Json) (l : List (String × Json)) :
    Holds (insertField k v l) ((k, v) :: l) where
  mem _ hp := (mem_insertField hp).elim (fun h => h ▸ List.mem_cons_self) (List.mem_cons_of_mem _)
  key _ hp := key_insertField k v l hp

theorem holds_foldl_insertField (fs acc : List (String × Json)) :
    Holds (fs.foldl (fun acc p => insertField p.1 p.2 acc) acc) (fs.reverse ++ acc) := by
  induction fs generalizing acc with
  | nil => exact ⟨fun _ hp => hp, fun p hp => ⟨p.2, hp⟩⟩
  | cons p fs ih =>
    have hstep := (holds_insertField p.1 p.2 acc).append_left fs.reverse
    simpa using (ih (insertField p.1 p.2 acc)).trans hstep

/-- An object built from some fields holds exactly those fields. -/
theorem holds_obj (fs : List (String × Json)) : ∃ l, Json.obj fs = .object l ∧ Holds l fs := by
  obtain ⟨hm, hk⟩ := holds_foldl_insertField fs []
  exact ⟨_, rfl, fun p hp => by simpa using hm p hp, fun p hp => hk p (by simpa using hp)⟩

end Json

/-- Reading the tag of an object written with the tag among other fields: the tag's value
names the variant, and what is left holds the other fields. -/
theorem Decoder.tagged_obj (tag enumName : String) (variants : List String) (name : String)
    {fs : List (String × Json)} (hfs : ∀ p ∈ fs, p.1 ≠ tag) :
    ∃ l, Decoder.tagged tag enumName variants (Json.obj ((tag, .string name) :: fs)) =
      (do pure (← Decoder.variantIndex variants name, Json.object l)) ∧ Json.Holds l fs := by
  obtain ⟨l, hobj, hl⟩ := Json.holds_obj ((tag, .string name) :: fs)
  -- the tag is written once, so the tag's field found is the one written
  have htag : l.lookup tag = some (.string name) := by
    refine hl.lookup List.mem_cons_self fun w hw => ?_
    rcases List.mem_cons.1 hw with hw | hw
    · exact (Prod.mk.inj hw).2
    · exact absurd rfl (hfs _ hw)
  have hc : fs.filter (·.1 != tag) = fs := List.filter_eq_self.2 (by simpa using hfs)
  have hf := hl.filter tag
  rw [List.filter_cons_of_neg (by simp), hc] at hf
  exact ⟨_, by rw [hobj]; simp only [Decoder.tagged, htag, Decoder.tagName], hf⟩

/-- A position's letter reads back as the position, directly or through the buffer. -/
theorem BalancePosition.decode_string_letter (buffered : Bool) (p : BalancePosition) :
    BalancePosition.decode buffered (.string p.letter) = .ok p := by
  cases p <;> rfl

namespace Command

section Records

variable {α β γ : Type} [Inhabited α] [Inhabited β] [Inhabited γ] {t n₁ n₂ n₃ : String}
  {d₁ : Decoder α} {d₂ : Decoder β} {d₃ : Decoder γ} {v₁ v₂ v₃ : Json} {a : α} {b : β} {c : γ}

/-- Reading the fields of a pair record: a field read puts its value in its own place, so once
every field named is read the pair is complete, whatever the order. -/
theorem putFields_pairRecord (hn : n₁ ≠ n₂) (ha : d₁ v₁ = .ok a) (hb : d₂ v₂ = .ok b)
    (l : List (String × Json)) (hl : ∀ p ∈ l, p ∈ [(n₁, v₁), (n₂, v₂)]) (acc : α × β)
    (h₁ : (∃ v, (n₁, v) ∈ l) ∨ acc.1 = a) (h₂ : (∃ v, (n₂, v) ∈ l) ∨ acc.2 = b) :
    (pairRecord t n₁ d₁ n₂ d₂).putFields acc l = .ok (a, b) := by
  induction l generalizing acc with
  | nil =>
    obtain ⟨x, y⟩ := acc
    simp only [List.not_mem_nil, exists_false, false_or] at h₁ h₂
    simp [Record.putFields, h₁, h₂, pure, Except.pure]
  | cons p rest ih =>
    have hrest : ∀ q ∈ rest, q ∈ [(n₁, v₁), (n₂, v₂)] :=
      fun q hq => hl q (List.mem_cons_of_mem _ hq)
    rcases List.mem_pair.1 (hl p List.mem_cons_self) with rfl | rfl
    · -- the first field: its place is filled, the second keeps what it had
      have h₂' : (∃ v, (n₂, v) ∈ rest) ∨ acc.2 = b := by simpa [Ne.symm hn] using h₂
      simpa [Record.putFields, pairRecord, ha, bind, Except.bind, pure, Except.pure] using
        ih hrest (a, acc.2) (.inr rfl) h₂'
    · have h₁' : (∃ v, (n₁, v) ∈ rest) ∨ acc.1 = a := by simpa [hn] using h₁
      simpa [Record.putFields, pairRecord, hn, hb, bind, Except.bind, pure, Except.pure] using
        ih hrest (acc.1, b) h₁' (.inr rfl)

theorem decodeIn_pairRecord {l : List (String × Json)} (hl : Json.Holds l [(n₁, v₁), (n₂, v₂)])
    (hn : n₁ ≠ n₂) (ha : d₁ v₁ = .ok a) (hb : d₂ v₂ = .ok b) (buffered : Bool) :
    (pairRecord t n₁ d₁ n₂ d₂).decodeIn buffered (.object l) = .ok (a, b) := by
  have h₁ := hl.key (n₁, v₁) (by simp)
  have h₂ := hl.key (n₂, v₂) (by simp)
  have hread : (pairRecord t n₁ d₁ n₂ d₂).putFields (pairRecord t n₁ d₁ n₂ d₂).blank l =
      .ok (a, b) := putFields_pairRecord hn ha hb l hl.mem _ (.inl h₁) (.inl h₂)
  simp only [Record.decodeIn, hread]
  simp [pairRecord, h₁, h₂, bind, Except.bind, pure, Except.pure]

/-- Reading the fields of a triple record, as `putFields_pairRecord`. -/
theorem putFields_tripleRecord (h₁₂ : n₁ ≠ n₂) (h₁₃ : n₁ ≠ n₃) (h₂₃ : n₂ ≠ n₃)
    (ha : d₁ v₁ = .ok a) (hb : d₂ v₂ = .ok b) (hc : d₃ v₃ = .ok c)
    (l : List (String × Json)) (hl : ∀ p ∈ l, p ∈ [(n₁, v₁), (n₂, v₂), (n₃, v₃)])
    (acc : α × β × γ) (h₁ : (∃ v, (n₁, v) ∈ l) ∨ acc.1 = a)
    (h₂ : (∃ v, (n₂, v) ∈ l) ∨ acc.2.1 = b) (h₃ : (∃ v, (n₃, v) ∈ l) ∨ acc.2.2 = c) :
    (tripleRecord t n₁ d₁ n₂ d₂ n₃ d₃).putFields acc l = .ok (a, b, c) := by
  induction l generalizing acc with
  | nil =>
    obtain ⟨x, y, z⟩ := acc
    simp only [List.not_mem_nil, exists_false, false_or] at h₁ h₂ h₃
    simp [Record.putFields, h₁, h₂, h₃, pure, Except.pure]
  | cons p rest ih =>
    have hrest : ∀ q ∈ rest, q ∈ [(n₁, v₁), (n₂, v₂), (n₃, v₃)] :=
      fun q hq => hl q (List.mem_cons_of_mem _ hq)
    have hp := hl p List.mem_cons_self
    simp only [List.mem_cons, List.not_mem_nil, or_false] at hp
    rcases hp with rfl | rfl | rfl
    · have h₂' : (∃ v, (n₂, v) ∈ rest) ∨ acc.2.1 = b := by simpa [Ne.symm h₁₂] using h₂
      have h₃' : (∃ v, (n₃, v) ∈ rest) ∨ acc.2.2 = c := by simpa [Ne.symm h₁₃] using h₃
      simpa [Record.putFields, tripleRecord, ha, bind, Except.bind, pure, Except.pure] using
        ih hrest (a, acc.2) (.inr rfl) h₂' h₃'
    · have h₁' : (∃ v, (n₁, v) ∈ rest) ∨ acc.1 = a := by simpa [h₁₂] using h₁
      have h₃' : (∃ v, (n₃, v) ∈ rest) ∨ acc.2.2 = c := by simpa [Ne.symm h₂₃] using h₃
      simpa [Record.putFields, tripleRecord, h₁₂, hb, bind, Except.bind, pure, Except.pure] using
        ih hrest (acc.1, b, acc.2.2) h₁' (.inr rfl) h₃'
    · have h₁' : (∃ v, (n₁, v) ∈ rest) ∨ acc.1 = a := by simpa [h₁₃] using h₁
      have h₂' : (∃ v, (n₂, v) ∈ rest) ∨ acc.2.1 = b := by simpa [h₂₃] using h₂
      simpa [Record.putFields, tripleRecord, h₁₃, h₂₃, hc, bind, Except.bind, pure, Except.pure]
        using ih hrest (acc.1, acc.2.1, c) h₁' h₂' (.inr rfl)

theorem decodeIn_tripleRecord {l : List (String × Json)}
    (hl : Json.Holds l [(n₁, v₁), (n₂, v₂), (n₃, v₃)]) (h₁₂ : n₁ ≠ n₂) (h₁₃ : n₁ ≠ n₃)
    (h₂₃ : n₂ ≠ n₃) (ha : d₁ v₁ = .ok a) (hb : d₂ v₂ = .ok b) (hc : d₃ v₃ = .ok c)
    (buffered : Bool) :
    (tripleRecord t n₁ d₁ n₂ d₂ n₃ d₃).decodeIn buffered (.object l) = .ok (a, b, c) := by
  have h₁ := hl.key (n₁, v₁) (by simp)
  have h₂ := hl.key (n₂, v₂) (by simp)
  have h₃ := hl.key (n₃, v₃) (by simp)
  have hread : (tripleRecord t n₁ d₁ n₂ d₂ n₃ d₃).putFields
      (tripleRecord t n₁ d₁ n₂ d₂ n₃ d₃).blank l = .ok (a, b, c) :=
    putFields_tripleRecord h₁₂ h₁₃ h₂₃ ha hb hc l hl.mem _ (.inl h₁) (.inl h₂) (.inl h₃)
  simp only [Record.decodeIn, hread]
  simp [tripleRecord, h₁, h₂, h₃, bind, Except.bind, pure, Except.pure]

end Records

/-- Each 32-bit level a command carries holds a 32-bit value. -/
def LevelsFit : Command → Prop
  | .setVolume _ v | .setBass _ v | .setTreble _ v | .setBalance _ _ v | .setSourceGain _ v
  | .zoneVolumeMax _ v | .zoneVolumeInitial _ v | .zoneVolumePage _ v | .zoneVolumeParty _ v =>
    Fits32 v
  | _ => True

instance : DecidablePred LevelsFit := fun c => by
  cases c <;> unfold LevelsFit <;> infer_instance

/-- No field of a command is named like its tag. -/
theorem tag_not_mem_fields (c : Command) : ∀ p ∈ c.fields, p.1 ≠ "command" := by
  cases c <;> simp [fields]

theorem decode_toJson (c : Command) (h : c.LevelsFit) : decode c.toJson = .ok c := by
  obtain ⟨l, htag, hfields⟩ :=
    Decoder.tagged_obj "command" "Command" names c.name (tag_not_mem_fields c)
  simp only [decode, toJson, htag]
  -- the name's position among the names chooses the reader of the command's own fields
  cases c <;> simp [name, Decoder.variantIndex, names, List.idxOf?_cons,
    decodeVariant, Decoder.unitContent, bind, Except.bind, pure, Except.pure]
  -- a zone (or source) beside a truth value, a source, or a 32-bit level
  case setPower z b | setMute z b | setLoudnessComp z b =>
    rw [decodeIn_pairRecord hfields (by decide) (Decoder.u8_ofNat z) (Decoder.bool_bool b)]; rfl
  case setSource z s =>
    rw [decodeIn_pairRecord hfields (by decide) (Decoder.u8_ofNat z) (Decoder.u8_ofNat s)]; rfl
  case setVolume z v | setBass z v | setTreble z v | setSourceGain z v | zoneVolumeMax z v
    | zoneVolumeInitial z v | zoneVolumePage z v | zoneVolumeParty z v =>
    rw [decodeIn_pairRecord hfields (by decide) (Decoder.u8_ofNat z) (Decoder.i32_ofInt h)]; rfl
  -- a balance carries three fields
  case setBalance z p v =>
    rw [decodeIn_tripleRecord hfields (by decide) (by decide) (by decide) (Decoder.u8_ofNat z)
      (BalancePosition.decode_string_letter true p) (Decoder.i32_ofInt h)]; rfl

end Command

namespace Query

-- unfolding `record` whole makes its title compute; only its field is needed
theorem record_fields (m : MessageType) :
    (record m).fields = [{ name := idField m, put := fun v _ => Decoder.u8 v }] := rfl

/-- Reading the fields of a query: its one field, wherever it stands. -/
theorem putFields_record (m : MessageType) {v : Json} {z : UInt8} (hz : Decoder.u8 v = .ok z)
    (l : List (String × Json)) (hl : ∀ p ∈ l, p ∈ [(idField m, v)]) (acc : UInt8)
    (h : (∃ w, (idField m, w) ∈ l) ∨ acc = z) : (record m).putFields acc l = .ok z := by
  induction l generalizing acc with
  | nil =>
    simp only [List.not_mem_nil, exists_false, false_or] at h
    simp [Record.putFields, h, pure, Except.pure]
  | cons p rest ih =>
    obtain rfl := List.mem_singleton.1 (hl p List.mem_cons_self)
    have hrest := ih (fun q hq => hl q (List.mem_cons_of_mem _ hq)) z (.inr rfl)
    simp [Record.putFields, record_fields, hz, hrest, bind, Except.bind]

theorem decodeIn_record (m : MessageType) {l : List (String × Json)} {v : Json} {z : UInt8}
    (hl : Json.Holds l [(idField m, v)]) (hz : Decoder.u8 v = .ok z) (buffered : Bool) :
    (record m).decodeIn buffered (.object l) = .ok z := by
  have hkey := hl.key (idField m, v) (by simp)
  have hread : (record m).putFields (record m).blank l = .ok z :=
    putFields_record m hz l hl.mem _ (.inl hkey)
  simp only [Record.decodeIn, hread]
  simp [record_fields, hkey, bind, Except.bind, pure, Except.pure]

theorem idField_ne_tag (m : MessageType) : idField m ≠ "query" := by
  unfold idField
  split <;> decide

theorem variantIndex_wireName (m : MessageType) :
    Decoder.variantIndex MessageType.wireNames m.wireName =
      .ok (MessageType.wireNames.idxOf m.wireName) := by
  cases m <;> rfl

theorem decode_toJson (q : Query) : decode q.toJson = .ok q := by
  obtain ⟨m, z⟩ := q
  have hne : ∀ p ∈ [(idField m, Json.ofNat z.toNat)], p.1 ≠ "query" := by
    simpa using idField_ne_tag m
  obtain ⟨l, htag, hfields⟩ := Decoder.tagged_obj "query" "Query" MessageType.wireNames
    m.wireName hne
  simp only [decode, toJson, htag, variantIndex_wireName]
  simp [decodeIn_record m hfields (Decoder.u8_ofNat z), bind, Except.bind, pure, Except.pure]

end Query

namespace Request

/-- Each 32-bit level a request carries holds a 32-bit value. -/
def LevelsFit : Request → Prop
  | .command c => c.LevelsFit
  | .query _ => True

instance : DecidablePred LevelsFit := fun r => by
  cases r <;> unfold LevelsFit <;> infer_instance

/-- The key a request goes under; the field naming its variant has the same name. -/
def key : Request → String
  | .command _ => "command"
  | .query _ => "query"

/-- The wire name of a request's variant. -/
def variantName : Request → String
  | .command c => c.name
  | .query q => q.messageType.wireName

/-- The fields of a request's variant besides its name. -/
def fields : Request → List (String × Json)
  | .command c => c.fields
  | .query q => [(Query.idField q.messageType, .ofNat q.id.toNat)]

theorem toJson_eq (r : Request) :
    ∃ l, r.toJson = .object [(r.key, .object l)] ∧
      Json.Holds l ((r.key, .string r.variantName) :: r.fields) := by
  cases r with
  | command c =>
    obtain ⟨l, hobj, hl⟩ := Json.holds_obj (("command", .string c.name) :: c.fields)
    exact ⟨l, by rw [toJson, Command.toJson, hobj]; rfl, hl⟩
  | query q =>
    obtain ⟨l, hobj, hl⟩ := Json.holds_obj
      [("query", .string q.messageType.wireName), (Query.idField q.messageType, .ofNat q.id.toNat)]
    exact ⟨l, by rw [toJson, Query.toJson, hobj]; rfl, hl⟩

theorem decode_toJson (r : Request) (h : r.LevelsFit) : decode r.toJson = .ok r := by
  cases r with
  | command c =>
    have hj : (command c).toJson = .object [("command", c.toJson)] := rfl
    simp [decode, hj, Decoder.external, Decoder.variantIndex, List.idxOf?_cons,
      Command.decode_toJson c h, bind, Except.bind, pure, Except.pure]
  | query q =>
    have hj : (query q).toJson = .object [("query", q.toJson)] := rfl
    simp [decode, hj, Decoder.external, Decoder.variantIndex, List.idxOf?_cons,
      Query.decode_toJson q, bind, Except.bind, pure, Except.pure]

/-- A request is written as one field under its key, whose object holds the variant's name under
that same key beside the variant's own fields, and nothing else; reading it back gives the
request. -/
theorem tagged_layout_roundtrip (r : Request) (h : r.LevelsFit) :
    (∃ l, r.toJson = .object [(r.key, .object l)] ∧
      Json.Holds l ((r.key, .string r.variantName) :: r.fields)) ∧
    decode r.toJson = .ok r :=
  ⟨toJson_eq r, decode_toJson r h⟩

/-- Setting zone 2's balance 5 to the left is written under `command` twice and reads back. -/
theorem tagged_layout_roundtrip_set_balance :
    (Request.command (.setBalance 2 .left 5)).LevelsFit ∧
      ((∃ l, (Request.command (.setBalance 2 .left 5)).toJson =
          .object [("command", .object l)] ∧
        Json.Holds l [("command", .string "set_balance"), ("zone", .ofNat 2),
          ("position", .string "L"), ("balance", .ofInt 5)]) ∧
      decode (Request.command (.setBalance 2 .left 5)).toJson =
        .ok (.command (.setBalance 2 .left 5))) :=
  ⟨by decide, tagged_layout_roundtrip _ (by decide)⟩

end Request

end ZoneBridge
