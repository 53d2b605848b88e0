import Mode2.Exchange.Receive
import Mode2.Proofs.Query.Grammar

/-!
# The bytes of requests

The command of a request, the field that says how to answer, the list of the devices that have
answered, and the queries are each read from exactly the bytes that they are written as.
-/

namespace Mode2

open QueueM

/-! ## Commands and response windows -/

namespace Command

/-- The bytes of a command. -/
def encode (c : Command) : List UInt8 :=
  c.code :: if Octet.hasAny c.code optionsBit then [c.options] else []

/-- Without a byte of options there are none. -/
def WellFormed (c : Command) : Prop :=
  Octet.hasAny c.code optionsBit = false → c.options = 0

end Command

theorem Exchange.commandBytes_readsAs :
    ReadsAs commandBytes fun command bytes => command.WellFormed ∧ bytes = command.encode := by
  have hoptions : ∀ code : UInt8, ReadsAs (do
      let options ← if Octet.hasAny code Command.optionsBit then QueueM.readByte else pure 0
      return ({ code, options } : Command)) fun command bytes =>
      command.code = code ∧ command.WellFormed ∧ command.encode = code :: bytes := by
    intro code
    by_cases hcode : Octet.hasAny code Command.optionsBit = true
    · simp only [if_pos hcode]
      refine ReadsAs.congr (.bind readByte_readsAs fun options => .pure _) fun command bytes => ?_
      constructor
      · rintro ⟨rfl, -, hencode⟩
        rw [Command.encode, if_pos hcode] at hencode
        obtain rfl := (List.cons.inj hencode).2
        exact ⟨command.options, [command.options], [], rfl, ⟨rfl, rfl⟩, rfl⟩
      · rintro ⟨options, _, _, rfl, ⟨rfl, rfl⟩, rfl⟩
        refine ⟨rfl, fun hnone => absurd hcode (by simp [hnone]), ?_⟩
        rw [Command.encode, if_pos hcode]
        rfl
    · simp only [if_neg hcode]
      refine ReadsAs.congr (.bind (.pure _) fun options => .pure _) fun command bytes => ?_
      constructor
      · rintro ⟨rfl, hwell, hencode⟩
        have hnone : command.options = 0 := hwell (by simpa using hcode)
        rw [Command.encode, if_neg hcode] at hencode
        obtain rfl := (List.cons.inj hencode).2
        exact ⟨0, [], [], ⟨rfl, rfl⟩, ⟨by rw [← hnone], rfl⟩, rfl⟩
      · rintro ⟨_, _, _, ⟨rfl, rfl⟩, ⟨rfl, rfl⟩, rfl⟩
        refine ⟨rfl, fun _ => rfl, ?_⟩
        rw [Command.encode, if_neg hcode]
        rfl
  refine ReadsAs.congr (.bind readByte_readsAs hoptions) fun command bytes => ?_
  constructor
  · rintro ⟨hwell, rfl⟩
    exact ⟨command.code, [command.code], _, rfl, ⟨rfl, hwell, rfl⟩, rfl⟩
  · rintro ⟨code, _, rest, rfl, ⟨rfl, hwell, hencode⟩, rfl⟩
    exact ⟨hwell, hencode.symm⟩

/-- How to answer, as it stands in a frame: the code of the window, and the channels if there
are any listed. -/
structure WindowField where
  code : UInt8
  channels : List UInt8
deriving DecidableEq, Repr

namespace WindowField

def encode (w : WindowField) : List UInt8 :=
  w.code ::
    if Octet.hasAny w.code channelListBit then UInt8.ofNat w.channels.length :: w.channels else []

/-- No more channels are listed than can be counted, and none without a list. -/
structure WellFormed (w : WindowField) : Prop where
  counted : w.channels.length < 256
  unlisted : Octet.hasAny w.code channelListBit = false → w.channels = []

end WindowField

/-- A counted list takes a byte more than its entries. -/
theorem Exchange.channelList_readsAs :
    ReadsAs channelList fun channels bytes =>
      channels.length < 256 ∧ bytes = UInt8.ofNat channels.length :: channels := by
  refine ReadsAs.congr (.bind readByte_readsAs fun count => read_readsAs count.toNat)
    fun channels bytes => ?_
  constructor
  · rintro ⟨hcounted, rfl⟩
    have hcount : channels.length = (UInt8.ofNat channels.length).toNat := by
      rw [UInt8.toNat_ofNat', Nat.mod_eq_of_lt hcounted]
    exact ⟨_, [_], channels, rfl, ⟨rfl, hcount⟩, rfl⟩
  · rintro ⟨count, _, _, rfl, ⟨rfl, hcount⟩, rfl⟩
    rw [hcount, UInt8.ofNat_toNat]
    exact ⟨count.toNat_lt, rfl⟩

/-- A field is followed by one rest only. -/
theorem WindowField.unique {w w' : WindowField} {rest rest' : List UInt8} (hwell : w.WellFormed)
    (hwell' : w'.WellFormed) (hfits : (w.encode ++ rest).length ≤ queueCapacity)
    (heq : w.encode ++ rest = w'.encode ++ rest') : w = w' ∧ rest = rest' := by
  obtain ⟨code, channels⟩ := w
  obtain ⟨code', channels'⟩ := w'
  unfold encode at heq hfits
  rw [List.cons_append, List.cons_append] at heq
  obtain ⟨rfl, heq⟩ := List.cons.inj heq
  dsimp only at heq hfits
  by_cases hlists : Octet.hasAny code channelListBit = true
  · rw [if_pos hlists, if_pos hlists] at heq
    rw [if_pos hlists] at hfits
    obtain ⟨rfl, rfl⟩ := Exchange.channelList_readsAs.unique (Nat.le_of_succ_le hfits)
      ⟨hwell.counted, rfl⟩ ⟨hwell'.counted, rfl⟩ heq
    exact ⟨rfl, rfl⟩
  · rw [if_neg hlists, if_neg hlists] at heq
    have hnone : channels = [] := hwell.unlisted (by simpa using hlists)
    have hnone' : channels' = [] := hwell'.unlisted (by simpa using hlists)
    exact ⟨by rw [hnone, hnone'], heq⟩

/-! ## Acknowledged devices -/

namespace AckList

/-- Whether some ID satisfies a test is found out by reading IDs of one width. -/
theorem scanIds_readsAs (isNamed : List UInt8 → Bool) (width n : Nat) :
    ReadsAs (scanIds isNamed width n) fun found bytes => ∃ ids : List (List UInt8),
      ids.length = n ∧ (∀ id ∈ ids, id.length = width) ∧ bytes = ids.flatten ∧
        found = ids.any isNamed := by
  induction n with
  | zero =>
      refine (ReadsAs.pure false).congr fun found bytes => ?_
      constructor
      · rintro ⟨ids, hlength, -, rfl, rfl⟩
        obtain rfl := List.length_eq_zero_iff.mp hlength
        exact ⟨rfl, rfl⟩
      · rintro ⟨rfl, rfl⟩
        exact ⟨[], rfl, List.forall_mem_nil _, rfl, rfl⟩
  | succ n ih =>
      refine ReadsAs.congr (.bind (read_readsAs width) fun id => .bind ih fun later => .pure _)
        fun found bytes => ?_
      constructor
      · rintro ⟨ids, hlength, hwidth, rfl, rfl⟩
        obtain ⟨id, rest, rfl⟩ := List.exists_cons_of_length_eq_add_one hlength
        have hrest := fun other h => hwidth other (List.mem_cons_of_mem _ h)
        exact ⟨id, id, rest.flatten, ⟨rfl, hwidth id List.mem_cons_self⟩,
          ⟨rest.any isNamed, rest.flatten, [], ⟨rest, Nat.succ.inj hlength, hrest, rfl, rfl⟩,
            ⟨rfl, rfl⟩, (List.append_nil _).symm⟩, rfl⟩
      · rintro ⟨_, id, _, ⟨rfl, hid⟩, ⟨_, _, _, ⟨rest, hlength, hrest, rfl, rfl⟩, ⟨rfl, rfl⟩,
          rfl⟩, rfl⟩
        refine ⟨id :: rest, congrArg Nat.succ hlength, ?_, ?_, rfl⟩
        · exact List.forall_mem_cons.mpr ⟨hid, hrest⟩
        · rw [List.append_nil]
          rfl

/-- The bytes of a list of IDs: their number and the IDs. -/
def encodeIds (ids : List (List UInt8)) : List UInt8 :=
  UInt8.ofNat ids.length :: ids.flatten

/-- The IDs have the width of a kind, and are no more than can be counted. -/
structure AreIds (virtualIds : Bool) (ids : List (List UInt8)) : Prop where
  counted : ids.length < 256
  width : ∀ id ∈ ids, id.length = DeviceId.widthOf virtualIds

/-- As many IDs of one width are followed by one rest only. -/
theorem flatten_unique {width : Nat} {ids ids' : List (List UInt8)} {rest rest' : List UInt8}
    (hlength : ids.length = ids'.length) (hwidth : ∀ id ∈ ids, id.length = width)
    (hwidth' : ∀ id ∈ ids', id.length = width)
    (heq : ids.flatten ++ rest = ids'.flatten ++ rest') : ids = ids' ∧ rest = rest' := by
  induction ids generalizing ids' with
  | nil =>
      obtain rfl := List.length_eq_zero_iff.mp hlength.symm
      exact ⟨rfl, heq⟩
  | cons id others ih =>
      obtain ⟨id', others', rfl⟩ := List.exists_cons_of_length_eq_add_one hlength.symm
      obtain ⟨hid, hothers⟩ := List.forall_mem_cons.mp hwidth
      obtain ⟨hid', hothers'⟩ := List.forall_mem_cons.mp hwidth'
      simp only [List.flatten_cons, List.append_assoc] at heq
      -- Nothing separates the IDs; only their width tells where one ends.
      obtain ⟨rfl, hrest⟩ := List.append_inj heq (hid.trans hid'.symm)
      obtain ⟨rfl, rfl⟩ := ih (Nat.succ.inj hlength) hothers hothers' hrest
      exact ⟨rfl, rfl⟩

theorem encodeIds_unique {virtualIds : Bool} {ids ids' : List (List UInt8)}
    {rest rest' : List UInt8} (hids : AreIds virtualIds ids) (hids' : AreIds virtualIds ids')
    (heq : encodeIds ids ++ rest = encodeIds ids' ++ rest') : ids = ids' ∧ rest = rest' := by
  obtain ⟨hcount, heq⟩ := List.cons.inj heq
  have hlength : ids.length = ids'.length := by
    have hnat := congrArg UInt8.toNat hcount
    rwa [UInt8.toNat_ofNat', UInt8.toNat_ofNat', Nat.mod_eq_of_lt hids.counted,
      Nat.mod_eq_of_lt hids'.counted] at hnat
  exact flatten_unique hlength hids.width hids'.width heq

theorem scan_readsAs (isNamed : List UInt8 → Bool) (virtualIds : Bool) :
    ReadsAs (scan isNamed virtualIds) fun found bytes => ∃ ids, AreIds virtualIds ids ∧
      bytes = encodeIds ids ∧ found = ids.any isNamed := by
  refine ReadsAs.congr (.bind readByte_readsAs fun count =>
    scanIds_readsAs isNamed (DeviceId.widthOf virtualIds) count.toNat) fun found bytes => ?_
  constructor
  · rintro ⟨ids, ⟨hcounted, hwidth⟩, rfl, rfl⟩
    have hcount : ids.length = (UInt8.ofNat ids.length).toNat := by
      rw [UInt8.toNat_ofNat', Nat.mod_eq_of_lt hcounted]
    exact ⟨_, [_], _, rfl, ⟨ids, hcount, hwidth, rfl, rfl⟩, rfl⟩
  · rintro ⟨count, _, _, rfl, ⟨ids, hcount, hwidth, rfl, rfl⟩, rfl⟩
    refine ⟨ids, ⟨hcount ▸ count.toNat_lt, hwidth⟩, ?_, rfl⟩
    rw [encodeIds, hcount, UInt8.ofNat_toNat]
    rfl

end AckList

/-! ## Queries -/

/-- A query as it stands in a request. -/
structure Query where
  template : Template
  target : Target
deriving DecidableEq, Repr

namespace Query

def encode (q : Query) : List UInt8 :=
  q.template.encode ++ q.target.encode

structure WellFormed (isSeries : Bool) (q : Query) : Prop where
  template : q.template.WellFormed
  target : q.target.WellFormed isSeries

end Query

theorem Exchange.queryParts_readsAs (isSeries : Bool) :
    ReadsAs (queryParts isSeries) fun parts bytes =>
      Query.WellFormed isSeries ⟨parts.1, parts.2⟩ ∧ bytes = Query.encode ⟨parts.1, parts.2⟩ := by
  refine ReadsAs.congr (.bind Template.parse_readsAs fun template =>
    .bind (Target.parse_readsAs isSeries) fun target => .pure _) fun parts bytes => ?_
  constructor
  · rintro ⟨⟨htemplate, htarget⟩, rfl⟩
    exact ⟨parts.1, _, _, ⟨htemplate, rfl⟩, ⟨parts.2, _, [], ⟨htarget, rfl⟩, ⟨rfl, rfl⟩,
      (List.append_nil _).symm⟩, rfl⟩
  · rintro ⟨template, _, _, ⟨htemplate, rfl⟩, ⟨target, _, _, ⟨htarget, rfl⟩, ⟨rfl, rfl⟩, rfl⟩, rfl⟩
    rw [List.append_nil]
    exact ⟨⟨htemplate, htarget⟩, rfl⟩

namespace Query

theorem unique {isSeries : Bool} {q q' : Query} {rest rest' : List UInt8}
    (hwell : q.WellFormed isSeries) (hwell' : q'.WellFormed isSeries)
    (hfits : (q.encode ++ rest).length ≤ queueCapacity) (heq : q.encode ++ rest = q'.encode ++ rest') :
    q = q' ∧ rest = rest' := by
  have hspelled : (q.template, q.target) = (q'.template, q'.target) ∧ rest = rest' :=
    (Exchange.queryParts_readsAs isSeries).unique hfits ⟨hwell, rfl⟩ ⟨hwell', rfl⟩ heq
  obtain ⟨template, target⟩ := q
  obtain ⟨hparts, hrest⟩ := hspelled
  cases hparts
  exact ⟨rfl, hrest⟩

/-- As many queries are followed by one rest only. -/
theorem flatMap_unique {isSeries : Bool} {queries queries' : List Query}
    {rest rest' : List UInt8} (hlength : queries.length = queries'.length)
    (hwell : ∀ q ∈ queries, q.WellFormed isSeries) (hwell' : ∀ q ∈ queries', q.WellFormed isSeries)
    (hfits : (queries.flatMap encode ++ rest).length ≤ queueCapacity)
    (heq : queries.flatMap encode ++ rest = queries'.flatMap encode ++ rest') :
    queries = queries' ∧ rest = rest' := by
  induction queries generalizing queries' with
  | nil =>
      obtain rfl := List.length_eq_zero_iff.mp hlength.symm
      exact ⟨rfl, heq⟩
  | cons q others ih =>
      obtain ⟨q', others', rfl⟩ := List.exists_cons_of_length_eq_add_one hlength.symm
      obtain ⟨hq, hothers⟩ := List.forall_mem_cons.mp hwell
      obtain ⟨hq', hothers'⟩ := List.forall_mem_cons.mp hwell'
      simp only [List.flatMap_cons, List.append_assoc] at heq hfits
      obtain ⟨rfl, hrest⟩ := unique hq hq' hfits heq
      rw [List.length_append] at hfits
      obtain ⟨rfl, rfl⟩ := ih (Nat.succ.inj hlength) hothers hothers'
        (Nat.le_trans (Nat.le_add_left _ _) hfits) hrest
      exact ⟨rfl, rfl⟩

end Query

end Mode2
