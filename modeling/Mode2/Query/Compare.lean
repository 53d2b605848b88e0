import Mode2.Query.Stream
import Mode2.Query.Template

/-!
# Query results

A query reads a stretch of file data and scores it. Comparisons look only at the
bits of the mask; the first byte that differs decides. A search slides the value
over the data and counts, at each place, the bytes that agree less those that do
not.
-/

namespace Mode2

/-- The bytes that a search looks at. -/
def searchWindow : Nat := 256

namespace Template

/-- The order of the data and the value under the mask. -/
def order : (data value mask : List UInt8) → Ordering
  | d :: data, v :: value, m :: mask => (compare (d &&& m) (v &&& m)).then (order data value mask)
  | _, _, _ => .eq

/-- Bytes that agree under the mask less bytes that differ. -/
def agreement : (data value mask : List UInt8) → Int
  | d :: data, v :: value, m :: mask =>
      (if d &&& m = v &&& m then 1 else -1) + agreement data value mask
  | _, _, _ => 0

/-- The best agreement over all places at which the value lies within the data. -/
def bestAgreement (t : Template) (data : List UInt8) : Int :=
  ((List.range (data.length - t.value.length + 1)).map fun i =>
    agreement (data.drop i) t.value t.mask).max?.getD (-1)

/-- How many bytes of data a query looks at. -/
def windowOf (t : Template) : QueryKind → Nat
  | .search _ => searchWindow
  | .nonNull | .compare _ => t.length.toNat

/-- The score of some data. -/
def score (t : Template) (kind : QueryKind) (data : List UInt8) : Score :=
  match kind with
  | .nonNull => if t.length.toNat ≤ data.length then 0 else .rejected
  | .compare relation =>
      if t.value.length ≤ data.length ∧ relation.holds (order data t.value t.mask) = true then 0
      else .rejected
  | .search threshold =>
      if t.value = [] ∨ data.length < t.value.length then .rejected
      else if (threshold.toNat : Int) ≤ t.bestAgreement data then t.bestAgreement data
      else .rejected

end Template

/-- Run a query against the files. -/
def Environment.query {W : Type} (env : Environment W) (user : User) (template : Template)
    (target : Target) : StateM W Score := fun w =>
  match template.kind? with
  | none => (.rejected, w)
  | some kind =>
      match env.stream user (fun byte data => some (data ++ [byte])) target.files target.offset
          (template.windowOf kind) [] w with
      | ((loaded, data), w) => (if loaded < 0 then loaded else template.score kind data, w)

end Mode2
