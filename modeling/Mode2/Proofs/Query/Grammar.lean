import Mode2.Proofs.FrameQueue.Grammar
import Mode2.Query.Call

/-!
# The bytes of queries and calls

A query, its target and a call are read from exactly the bytes that they are written as.
-/

namespace Mode2

open QueueM

namespace Template

/-- The template is one that can stand in a frame: a comparison has a value and a mask of the
length that is given, and all bits in the mask when the frame has none. -/
structure WellFormed (t : Template) : Prop where
  bare : t.code &&& typeBits = 0 → t.mask = [] ∧ t.value = []
  compared : t.code &&& typeBits ≠ 0 → t.length.toNat ≤ maxToken ∧
    t.mask.length = t.length.toNat ∧ t.value.length = t.length.toNat
  unmasked : t.code &&& typeBits ≠ 0 → Octet.hasAny t.code maskBit = false →
    t.mask = List.replicate t.length.toNat 0xFF

/-- After the mask comes the value, of the length that is given. -/
theorem value_readsAs (length code : UInt8) (mask : List UInt8) :
    ReadsAs (do
      let value ← QueueM.read length.toNat
      return ({ length, code, mask, value } : Template))
      fun t bytes => t = { length, code, mask, value := bytes } ∧ bytes.length = length.toNat := by
  refine ReadsAs.congr (.bind (read_readsAs _) fun value => .pure _) fun t bytes => ?_
  constructor
  · rintro ⟨rfl, hlength⟩
    exact ⟨bytes, bytes, [], ⟨rfl, hlength⟩, ⟨rfl, rfl⟩, (List.append_nil _).symm⟩
  · rintro ⟨value, _, _, ⟨rfl, hlength⟩, ⟨rfl, rfl⟩, rfl⟩
    rw [List.append_nil]
    exact ⟨rfl, hlength⟩

/-- The bytes of a comparison after its length and code. -/
def token (t : Template) : List UInt8 :=
  (if Octet.hasAny t.code maskBit then t.mask else []) ++ t.value

/-- The bytes of a template after its length and code. -/
def body (t : Template) : List UInt8 :=
  if t.code &&& typeBits = 0 then [] else t.token

/-- A comparison is read as its mask, if there is one, and its value. -/
theorem token_readsAs {length code : UInt8} (hcode : code &&& typeBits ≠ 0)
    (hlength : length.toNat ≤ maxToken) :
    ReadsAs (do
      let mask ← if Octet.hasAny code maskBit then QueueM.read length.toNat
        else pure (List.replicate length.toNat 0xFF)
      let value ← QueueM.read length.toNat
      return ({ length, code, mask, value } : Template))
      fun t bytes => t.length = length ∧ t.code = code ∧ t.WellFormed ∧ bytes = t.token := by
  by_cases hmasked : Octet.hasAny code maskBit = true
  · simp only [if_pos hmasked]
    refine (ReadsAs.bind (read_readsAs length.toNat) fun mask =>
      value_readsAs length code mask).congr fun t bytes => ?_
    constructor
    · rintro ⟨rfl, rfl, hwell, rfl⟩
      obtain ⟨-, hmask, hvalue⟩ := hwell.compared hcode
      rw [token, if_pos hmasked]
      exact ⟨t.mask, t.mask, t.value, ⟨rfl, hmask⟩, ⟨rfl, hvalue⟩, rfl⟩
    · rintro ⟨mask, _, value, ⟨rfl, hmask⟩, ⟨rfl, hvalue⟩, rfl⟩
      refine ⟨rfl, rfl, ⟨(absurd · hcode), fun _ => ⟨hlength, hmask, hvalue⟩, ?_⟩, ?_⟩
      · exact fun _ hnone => absurd hmasked (by simp [hnone])
      · rw [token, if_pos hmasked]
  · simp only [if_neg hmasked]
    refine (ReadsAs.bind (.pure _) fun mask => value_readsAs length code mask).congr
      fun t bytes => ?_
    constructor
    · rintro ⟨rfl, rfl, hwell, rfl⟩
      obtain ⟨-, -, hvalue⟩ := hwell.compared hcode
      have hall := hwell.unmasked hcode (by simpa using hmasked)
      rw [token, if_neg hmasked]
      exact ⟨_, [], t.value, ⟨rfl, rfl⟩, ⟨by rw [← hall], hvalue⟩, rfl⟩
    · rintro ⟨_, _, value, ⟨rfl, rfl⟩, ⟨rfl, hvalue⟩, rfl⟩
      refine ⟨rfl, rfl, ⟨(absurd · hcode), fun _ => ⟨hlength, ?_, hvalue⟩, fun _ _ => rfl⟩, ?_⟩
      · exact List.length_replicate
      · rw [token, if_neg hmasked, List.nil_append]

/-- Behind the length and the code stands what the code says. -/
theorem body_readsAs (length code : UInt8) :
    ReadsAs (do
      if code &&& typeBits = 0 then
        return { length, code }
      if maxToken < length.toNat then
        throw .capacity
      let mask ← if Octet.hasAny code maskBit then QueueM.read length.toNat
        else pure (List.replicate length.toNat 0xFF)
      let value ← QueueM.read length.toNat
      return ({ length, code, mask, value } : Template))
      fun t bytes => t.length = length ∧ t.code = code ∧ t.WellFormed ∧ bytes = t.body := by
  by_cases hcode : code &&& typeBits = 0
  · simp only [if_pos hcode]
    refine (ReadsAs.pure _).congr fun t bytes => ?_
    constructor
    · rintro ⟨rfl, rfl, hwell, rfl⟩
      obtain ⟨length, code, mask, value⟩ := t
      obtain ⟨rfl, rfl⟩ : mask = [] ∧ value = [] := hwell.bare hcode
      exact ⟨rfl, if_pos hcode⟩
    · rintro ⟨rfl, rfl⟩
      refine ⟨rfl, rfl, ⟨fun _ => ⟨rfl, rfl⟩, (absurd hcode ·), (absurd hcode ·)⟩, ?_⟩
      rw [body, if_pos hcode]
  · simp only [if_neg hcode]
    by_cases hlong : maxToken < length.toNat
    · simp only [if_pos hlong]
      refine ReadsAs.refused (fun q => ⟨_, q, rfl⟩) ?_
      rintro t bytes ⟨rfl, rfl, hwell, -⟩
      exact absurd (hwell.compared hcode).1 (Nat.not_le_of_lt hlong)
    · simp only [if_neg hlong]
      refine (token_readsAs hcode (Nat.le_of_not_lt hlong)).congr fun t bytes => ?_
      refine and_congr_right fun _ => and_congr_right fun htcode => and_congr_right fun _ => ?_
      rw [body, htcode, if_neg hcode]

theorem parse_readsAs : ReadsAs parse fun t bytes => t.WellFormed ∧ bytes = t.encode := by
  refine ReadsAs.congr (.bind readByte_readsAs fun length => .bind readByte_readsAs fun code =>
    body_readsAs length code) fun t bytes => ?_
  constructor
  · rintro ⟨hwell, rfl⟩
    exact ⟨t.length, [_], _, rfl, ⟨t.code, [_], _, rfl, ⟨rfl, rfl, hwell, rfl⟩, rfl⟩, rfl⟩
  · rintro ⟨_, _, _, rfl, ⟨_, _, _, rfl, ⟨rfl, rfl, hwell, rfl⟩, rfl⟩, rfl⟩
    exact ⟨hwell, rfl⟩

end Template

namespace Target

/-- The target is one that can stand in a frame, as a series or as a single file. -/
structure WellFormed (isSeries : Bool) (t : Target) : Prop where
  isSeries_eq : t.isSeries = isSeries
  series : isSeries = true → t.ids.length ≤ maxSeries
  single : isSeries = false → t.ids.length = 1 ∧ t.offset.toNat < 256

theorem single_readsAs :
    ReadsAs (do
      let id ← QueueM.readByte
      let offset ← QueueM.readByte
      return ofFile id offset) fun t bytes => t.WellFormed false ∧ bytes = t.encode := by
  refine ReadsAs.congr (.bind readByte_readsAs fun id => .bind readByte_readsAs fun offset =>
    .pure _) fun t bytes => ?_
  constructor
  · rintro ⟨hwell, rfl⟩
    obtain ⟨isSeries, ids, offset⟩ := t
    obtain rfl : isSeries = false := hwell.isSeries_eq
    obtain ⟨hone, hoffset⟩ := hwell.single rfl
    obtain ⟨id, rfl⟩ := List.length_eq_one_iff.mp hone
    have hbyte : offset.toUInt8.toUInt16 = offset := by
      apply UInt16.toNat_inj.mp
      simpa using hoffset
    refine ⟨id, [id], [offset.toUInt8], rfl, ⟨offset.toUInt8, _, [], rfl, ⟨?_, rfl⟩, rfl⟩, rfl⟩
    rw [ofFile, hbyte]
  · rintro ⟨id, _, _, rfl, ⟨offset, _, _, rfl, ⟨rfl, rfl⟩, rfl⟩, rfl⟩
    have hoffset : offset.toUInt16.toNat < 256 := by
      rw [UInt8.toNat_toUInt16]
      exact offset.toNat_lt
    refine ⟨⟨rfl, (nomatch ·), fun _ => ⟨rfl, hoffset⟩⟩, ?_⟩
    simp [encode, ofFile]

theorem series_readsAs :
    ReadsAs (do
      let count ← QueueM.readByte
      if maxSeries < count.toNat then
        throw .capacity
      let ids ← QueueM.read count.toNat
      let offset ← QueueM.readShort
      return ({ isSeries := true, ids, offset } : Target))
      fun t bytes => t.WellFormed true ∧ bytes = t.encode := by
  have hrest : ∀ count : UInt8, ReadsAs (do
      if maxSeries < count.toNat then
        throw .capacity
      let ids ← QueueM.read count.toNat
      let offset ← QueueM.readShort
      return ({ isSeries := true, ids, offset } : Target))
      fun t bytes => t.WellFormed true ∧ t.ids.length = count.toNat ∧
        bytes = t.ids ++ Octet.ofShort t.offset := by
    intro count
    by_cases hlong : maxSeries < count.toNat
    · simp only [if_pos hlong]
      refine ReadsAs.refused (fun q => ⟨_, q, rfl⟩) ?_
      rintro t bytes ⟨hwell, hcount, -⟩
      exact absurd (hcount ▸ hwell.series rfl) (Nat.not_le_of_lt hlong)
    · simp only [if_neg hlong]
      refine ReadsAs.congr (.bind (read_readsAs _) fun ids => .bind readShort_readsAs fun offset =>
        .pure _) fun t bytes => ?_
      constructor
      · rintro ⟨hwell, hcount, rfl⟩
        obtain ⟨isSeries, ids, offset⟩ := t
        obtain rfl : isSeries = true := hwell.isSeries_eq
        exact ⟨ids, ids, _, ⟨rfl, hcount⟩, ⟨offset, _, [], rfl, ⟨rfl, rfl⟩,
          (List.append_nil _).symm⟩, rfl⟩
      · rintro ⟨ids, _, _, ⟨rfl, hcount⟩, ⟨offset, _, _, rfl, ⟨rfl, rfl⟩, rfl⟩, rfl⟩
        rw [List.append_nil]
        exact ⟨⟨rfl, fun _ => hcount ▸ Nat.le_of_not_lt hlong, (nomatch ·)⟩, hcount, rfl⟩
  refine ReadsAs.congr (.bind readByte_readsAs hrest) fun t bytes => ?_
  constructor
  · rintro ⟨hwell, rfl⟩
    have hcount : t.ids.length = (UInt8.ofNat t.ids.length).toNat := by
      have hmax : t.ids.length ≤ 8 := hwell.series rfl
      rw [UInt8.toNat_ofNat']
      omega
    refine ⟨_, [UInt8.ofNat t.ids.length], _, rfl, ⟨hwell, hcount, rfl⟩, ?_⟩
    rw [encode, if_pos hwell.isSeries_eq]
    rfl
  · rintro ⟨count, _, _, rfl, ⟨hwell, hcount, rfl⟩, rfl⟩
    refine ⟨hwell, ?_⟩
    rw [encode, if_pos hwell.isSeries_eq, hcount, UInt8.ofNat_toNat]
    rfl

theorem parse_readsAs (isSeries : Bool) :
    ReadsAs (parse isSeries) fun t bytes => t.WellFormed isSeries ∧ bytes = t.encode := by
  cases isSeries with
  | false => exact single_readsAs
  | true => exact series_readsAs

end Target

end Mode2
