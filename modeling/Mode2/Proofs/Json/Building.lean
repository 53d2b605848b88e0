import Mathlib.Data.List.Basic
import Mode2.Json.Value

/-!
# Values are built from their tokens

The tokens of a value lead the machine from a place where a value is expected to
the same place with the value complete, whatever containers are open around it.
A record's parts are found by their names, in the order in which they are asked
for, when no name occurs twice.
-/

namespace Mode2.Json

/-- Where a value is expected, the tokens build it. -/
def Builds (tokens : List Token) (value : Value) : Prop :=
  ∀ outer, tokens.foldlM Builder.step ⟨outer, .value⟩ = some ⟨outer, .complete value⟩

theorem Builds.ofTokens {tokens : List Token} {value : Value} (h : Builds tokens value) :
    Value.ofTokens tokens = some value := by
  simp [Value.ofTokens, Builder.start, h [], Builder.result]

theorem builds_scalar {token : Token} {value : Value}
    (h : Builder.scalar? token = some value) : Builds [token] value := by
  intro outer
  cases token <;> cases h <;> rfl

/-- Where an array has just begun, a value is its first item. -/
theorem Builds.foldlM_firstItem {tokens : List Token} {value : Value} (h : Builds tokens value)
    (rest : List Token) (outer : List Open) :
    (tokens ++ rest).foldlM Builder.step ⟨outer, .firstItem⟩ =
      (tokens ++ rest).foldlM Builder.step ⟨.array [] :: outer, .value⟩ := by
  cases tokens with
  | nil => cases h []
  | cons token tokens =>
    have hstep : Builder.step ⟨outer, .firstItem⟩ token =
        Builder.step ⟨.array [] :: outer, .value⟩ token := by
      cases token with
      -- No value begins with the end of an array.
      | closeArray => cases h []
      | _ => rfl
    rw [List.cons_append, List.foldlM_cons, List.foldlM_cons, hstep]

/-! ## Parts of a record -/

/-- A reader that reads back what a list was written as. -/
theorem mapM_map_eq_some {α β γ : Type} {write : α → β} {read : β → Option γ} {part : α → γ}
    {items : List α} (h : ∀ item ∈ items, read (write item) = some (part item)) :
    (items.map write).mapM read = some (items.map part) := by
  induction items with
  | nil => rfl
  | cons item items ih =>
    rw [List.map_cons, List.mapM_cons, h item List.mem_cons_self,
      ih fun item hitem => h item (List.mem_cons_of_mem _ hitem)]
    rfl

theorem not_surrogate (c : Char) : ¬(0xD800 ≤ c.toNat ∧ c.toNat < 0xE000) := by
  have hvalid : c.toNat < 0xD800 ∨ 0xDFFF < c.toNat ∧ c.toNat < 0x110000 := c.valid
  omega

/-- Text that was written unit by unit is read back. -/
theorem decodeUnits_toNat (letters : List Char) :
    decodeUnits (letters.map Char.toNat) = some letters := by
  induction letters with
  | nil => rfl
  | cons c letters ih =>
    have hc := not_surrogate c
    cases letters with
    | nil => simp [decodeUnits, hc]
    | cons next letters =>
      have hhigh : ¬(0xD800 ≤ c.toNat ∧ c.toNat < 0xDC00) := by omega
      have hlow : ¬(0xDC00 ≤ c.toNat ∧ c.toNat < 0xE000) := by omega
      rw [List.map_cons, List.map_cons, decodeUnits, if_neg hhigh, if_neg hlow,
        ← List.map_cons, ih]
      simp

namespace Value

variable {entries : List (String × Value)}

theorem filter_name {name : String} {value : Value} (hnodup : (entries.map Prod.fst).Nodup)
    (h : (name, value) ∈ entries) :
    entries.filter (fun entry => entry.1 = name) = [(name, value)] := by
  induction entries with
  | nil => cases h
  | cons entry entries ih =>
    rw [List.map_cons, List.nodup_cons] at hnodup
    obtain ⟨hfresh, hnodup⟩ := hnodup
    have hother : ∀ other ∈ entries, other.1 ≠ entry.1 := fun other hmem heq =>
      hfresh (heq ▸ List.mem_map_of_mem hmem)
    rcases List.mem_cons.mp h with rfl | hmem
    · simpa [List.filter_eq_nil_iff] using fun a b hab => hother (a, b) hab
    · rw [List.filter_cons_of_neg (by simpa using (hother _ hmem).symm)]
      exact ih hnodup hmem

theorem field?_of_mem {name : String} {value : Value} (hnodup : (entries.map Prod.fst).Nodup)
    (h : (name, value) ∈ entries) :
    field? (entries.map fun entry => (entry.1.toList, entry.2)) name = some value := by
  have hfilter := filter_name hnodup h
  simp only [field?, List.filter_map, Function.comp_def, String.toList_inj, hfilter]
  rfl

/-- The parts of a record without repeated names. -/
theorem record?_object (hnodup : (entries.map Prod.fst).Nodup) :
    record? (entries.map Prod.fst)
        (.object (entries.map fun entry => (entry.1.toList.map Char.toNat, entry.2))) =
      some (entries.map Prod.snd) := by
  refine Option.bind_eq_some_iff.mpr
    ⟨entries.map fun entry => (entry.1.toList, entry.2), ?_, ?_⟩
  · exact mapM_map_eq_some fun entry _ => by simp [decodeUnits_toNat]
  · exact mapM_map_eq_some fun entry hentry => field?_of_mem hnodup hentry

end Value

end Mode2.Json
