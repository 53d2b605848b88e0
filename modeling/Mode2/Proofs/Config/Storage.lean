import Mode2.Proofs.Config.Blob
import Mode2.Proofs.Config.Document

/-!
# Configurations survive storage

Both stored forms are read back exactly, so what a loader makes of a stored
configuration is decided by the range checks alone. Nothing that fails one of
them is ever loaded, whatever the bytes or the text were.
-/

namespace Mode2.Config

variable {c loaded : Config}

/-! ## Range checks -/

theorem mem_rules (rule : ConfigRule) : rule ∈ rules := by
  cases rule <;> decide

theorem validate_eq_ok_iff (c : Config) : c.validate = .ok () ↔ ∀ rule, c.satisfies rule := by
  unfold validate
  cases hfind : rules.find? (fun rule => !c.satisfies rule) with
  | some rule =>
    have hfails : c.satisfies rule = false := by simpa using List.find?_some hfind
    refine ⟨fun h => (nomatch h), fun h => ?_⟩
    rw [h rule] at hfails
    cases hfails
  | none =>
    refine ⟨fun _ rule => ?_, fun _ => rfl⟩
    simpa using List.find?_eq_none.mp hfind rule (mem_rules rule)

theorem validated_of_ok (h : c.validate = .ok ()) : c.validated = .ok c := by
  rw [validated, h]
  rfl

theorem validated_of_error {e : ConfigError} (h : c.validate = .error e) :
    c.validated = .error e := by
  rw [validated, h]
  rfl

theorem validate_of_validated (h : c.validated = .ok loaded) : loaded.validate = .ok () := by
  cases hvalid : c.validate with
  | error e =>
    rw [validated_of_error hvalid] at h
    cases h
  | ok =>
    rw [validated_of_ok hvalid] at h
    cases h
    exact hvalid

/-! ## Loading what was stored -/

theorem ofBlob_toBlob (c : Config) : ofBlob c.toBlob = c.validated := by
  have hread := Blob.reads_config c []
  rw [List.append_nil] at hread
  have hrun : Blob.config?.run c.toBlob = some (c, []) := hread
  rw [ofBlob, hrun]

theorem ofDocument_toDocument (c : Config) : ofDocument c.toDocument = c.validated := by
  obtain ⟨value, hspells, hread⟩ := Document.carries_config c
  have htext := hspells.ofText
  have hparsed : (Json.Value.ofText c.toDocument.toList >>= Document.config?) = some c := by
    rw [toDocument, String.toList_ofList, htext]
    exact hread
  rw [ofDocument, hparsed]

/-! ## Loading anything -/

theorem validate_of_ofBlob {blob : List UInt8} (h : ofBlob blob = .ok loaded) :
    loaded.validate = .ok () := by
  unfold ofBlob at h
  split at h
  next => exact validate_of_validated h
  next => cases h

theorem validate_of_ofDocument {document : String} (h : ofDocument document = .ok loaded) :
    loaded.validate = .ok () := by
  unfold ofDocument at h
  split at h
  next => exact validate_of_validated h
  next => cases h

/-- A stored configuration that passes its range checks is loaded as it was, any
other is refused for the check that it fails, and nothing that fails a check is
loaded from any bytes or text. -/
theorem survives_storage :
    (∀ c : Config, c.validate = .ok () →
      ofBlob c.toBlob = .ok c ∧ ofDocument c.toDocument = .ok c) ∧
    (∀ (c : Config) (e : ConfigError), c.validate = .error e →
      ofBlob c.toBlob = .error e ∧ ofDocument c.toDocument = .error e) ∧
    (∀ (blob : List UInt8) (loaded : Config), ofBlob blob = .ok loaded →
      loaded.validate = .ok () ∧ ∀ rule, loaded.satisfies rule) ∧
    (∀ (document : String) (loaded : Config), ofDocument document = .ok loaded →
      loaded.validate = .ok () ∧ ∀ rule, loaded.satisfies rule) := by
  refine ⟨fun c hvalid => ?_, fun c e hinvalid => ?_, fun blob loaded hloaded => ?_,
    fun document loaded hloaded => ?_⟩
  · have hvalidated := validated_of_ok hvalid
    exact ⟨(ofBlob_toBlob c).trans hvalidated, (ofDocument_toDocument c).trans hvalidated⟩
  · have hrefused := validated_of_error hinvalid
    exact ⟨(ofBlob_toBlob c).trans hrefused, (ofDocument_toDocument c).trans hrefused⟩
  · have hvalid := validate_of_ofBlob hloaded
    exact ⟨hvalid, (validate_eq_ok_iff loaded).mp hvalid⟩
  · have hvalid := validate_of_ofDocument hloaded
    exact ⟨hvalid, (validate_eq_ok_iff loaded).mp hvalid⟩

/-- The configuration of a new device is loaded again, with a scan that never
listens it is refused, and what was loaded passes every check. -/
theorem survives_storage_new_device :
    ofBlob default.toBlob = .ok default ∧ ofDocument default.toDocument = .ok default ∧
      ofBlob { default with scan := { default.scan with timeout := 0 } }.toBlob =
        .error (.invalid .scanTimeout) ∧
      ∀ rule, default.satisfies rule := by
  have hkept := survives_storage.1 default rfl
  have hrefused := survives_storage.2.1
    { default with scan := { default.scan with timeout := 0 } } (.invalid .scanTimeout) rfl
  exact ⟨hkept.1, hkept.2, hrefused.1, (survives_storage.2.2.1 default.toBlob default hkept.1).2⟩

end Mode2.Config
