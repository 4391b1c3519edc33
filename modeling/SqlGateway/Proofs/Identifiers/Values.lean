import SqlGateway.Proofs.Value.Order
import SqlGateway.Proofs.Value.Path
import SqlGateway.Value.Order
import SqlGateway.Value.TypeTag

/-! Values and documents under a renaming of identifiers. Whether two values are equal or the same does
not depend on the names of the identifiers in them, as long as different ones keep different names;
nor does the order of a value beside one without identifiers. Fields and paths do not name
identifiers, so that it makes no difference whether a document is renamed before or after its fields
are read, written or removed. -/

namespace SqlGateway

namespace Value

mutual

/-- A value with other identifiers. -/
def rename (f : ObjectId → ObjectId) : Value → Value
  | .objectId id => .objectId (f id)
  | .codeWithScope s scope => .codeWithScope s (renameFields f scope)
  | .array items => .array (renameItems f items)
  | .document fields => .document (renameFields f fields)
  | v => v

/-- Items with other identifiers. -/
def renameItems (f : ObjectId → ObjectId) : List Value → List Value
  | [] => []
  | v :: vs => rename f v :: renameItems f vs

/-- Fields with other identifiers. -/
def renameFields (f : ObjectId → ObjectId) : List (String × Value) → List (String × Value)
  | [] => []
  | (k, v) :: fs => (k, rename f v) :: renameFields f fs

end

mutual

/-- Whether a value has no identifiers in it. -/
def idFree : Value → Bool
  | .objectId _ => false
  | .codeWithScope _ scope => fieldsIdFree scope
  | .array items => itemsIdFree items
  | .document fields => fieldsIdFree fields
  | _ => true

/-- Whether items have no identifiers in them. -/
def itemsIdFree : List Value → Bool
  | [] => true
  | v :: vs => idFree v && itemsIdFree vs

/-- Whether fields have no identifiers in them. -/
def fieldsIdFree : List (String × Value) → Bool
  | [] => true
  | (_, v) :: fs => idFree v && fieldsIdFree fs

end

end Value

/-- A document with other identifiers. -/
def Document.rename (f : ObjectId → ObjectId) (d : Document) : Document :=
  d.map fun e => (e.1, e.2.rename f)

/-- Whether a document has no identifiers in it. -/
def Document.IdFree (d : Document) : Prop := ∀ e ∈ d, e.2.idFree = true

variable {f : ObjectId → ObjectId}

namespace Value

theorem renameItems_eq (vs : List Value) : renameItems f vs = vs.map (rename f) := by
  induction vs with
  | nil => rfl
  | cons v vs ih => rw [renameItems, ih, List.map_cons]

theorem renameFields_eq (d : Document) : renameFields f d = d.rename f := by
  induction d with
  | nil => rfl
  | cons e d ih => rw [renameFields, ih, Document.rename, Document.rename, List.map_cons]

@[simp] theorem rename_array (vs : List Value) :
    (Value.array vs).rename f = .array (vs.map (rename f)) := by
  rw [rename, renameItems_eq]

@[simp] theorem rename_document (d : Document) :
    (Value.document d).rename f = .document (d.rename f) := by
  rw [rename, renameFields_eq]

theorem itemsIdFree_iff {vs : List Value} : itemsIdFree vs = true ↔ ∀ v ∈ vs, v.idFree = true := by
  induction vs with
  | nil => simp [itemsIdFree]
  | cons v vs ih => simp [itemsIdFree, ih]

theorem fieldsIdFree_iff {d : Document} : fieldsIdFree d = true ↔ d.IdFree := by
  induction d with
  | nil => simp [fieldsIdFree, Document.IdFree]
  | cons e d ih =>
    rw [Document.IdFree, List.forall_mem_cons, fieldsIdFree, Bool.and_eq_true, ih, Document.IdFree]

@[simp] theorem idFree_array {vs : List Value} :
    (Value.array vs).idFree = true ↔ ∀ v ∈ vs, v.idFree = true := by
  rw [idFree, itemsIdFree_iff]

@[simp] theorem idFree_document {d : Document} : (Value.document d).idFree = true ↔ d.IdFree := by
  rw [idFree, fieldsIdFree_iff]

mutual

/-- There is nothing to rename in a value without identifiers. -/
theorem rename_of_idFree (v : Value) (h : v.idFree = true) : v.rename f = v := by
  cases v with
  | objectId id => cases h
  | codeWithScope s scope => rw [rename, renameFields_of_idFree scope h]
  | array vs => rw [rename, renameItems_of_idFree vs h]
  | document d => rw [rename, renameFields_of_idFree d h]
  | _ => rfl

theorem renameItems_of_idFree (vs : List Value) (h : itemsIdFree vs = true) :
    renameItems f vs = vs := by
  match vs with
  | [] => rfl
  | v :: vs =>
    obtain ⟨hv, hvs⟩ := Bool.and_eq_true_iff.mp h
    rw [renameItems, rename_of_idFree v hv, renameItems_of_idFree vs hvs]

theorem renameFields_of_idFree (d : List (String × Value)) (h : fieldsIdFree d = true) :
    renameFields f d = d := by
  match d with
  | [] => rfl
  | (k, v) :: d =>
    obtain ⟨hv, hd⟩ := Bool.and_eq_true_iff.mp h
    rw [renameFields, rename_of_idFree v hv, renameFields_of_idFree d hd]

end

/-! ### What can be seen of a value without its identifiers -/

@[simp] theorem classRank_rename (v : Value) : (v.rename f).classRank = v.classRank := by
  cases v <;> rfl

@[simp] theorem ofValue?_rename (v : Value) :
    Number.ofValue? (v.rename f) = Number.ofValue? v := by
  cases v <;> rfl

@[simp] theorem ofValue_rename (v : Value) : TypeTag.ofValue (v.rename f) = TypeTag.ofValue v := by
  cases v <;> rfl

@[simp] theorem string?_rename (v : Value) : (v.rename f).string? = v.string? := by
  cases v <;> rfl

/-- A sum has no identifiers in it, and its summands are numbers. -/
theorem add?_rename (a b : Value) : (a.rename f).add? (b.rename f) = a.add? b := by
  unfold add?
  rw [ofValue?_rename, ofValue?_rename]
  cases a <;> cases b <;> rfl

theorem idFree_add? {a b sum : Value} (h : a.add? b = some sum) : sum.idFree = true := by
  unfold add? at h
  obtain ⟨x, -, h⟩ := Option.bind_eq_some_iff.mp h
  obtain ⟨y, -, h⟩ := Option.bind_eq_some_iff.mp h
  dsimp only at h
  split at h
  · cases h
    split <;> rfl
  · cases h
    split <;> rfl
  · obtain ⟨l, -, h⟩ := Option.bind_eq_some_iff.mp h
    obtain ⟨r, -, h⟩ := Option.bind_eq_some_iff.mp h
    obtain ⟨s, -, h⟩ := Option.bind_eq_some_iff.mp h
    cases h
    rfl
  · obtain ⟨l, -, h⟩ := Option.bind_eq_some_iff.mp h
    obtain ⟨r, -, h⟩ := Option.bind_eq_some_iff.mp h
    obtain ⟨s, -, h⟩ := Option.bind_eq_some_iff.mp h
    cases h
    rfl
  · cases h
    rfl

theorem idFree_divide? {total quotient : Value} {count : Nat}
    (h : total.divide? count = some quotient) : quotient.idFree = true := by
  unfold divide? at h
  obtain ⟨x, -, h⟩ := Option.bind_eq_some_iff.mp h
  split at h
  · obtain ⟨q, -, h⟩ := Option.bind_eq_some_iff.mp h
    cases h
    rfl
  · cases h
    rfl

/-! ### Order and identity -/

theorem orderScalars_rename_left {a b : Value} (hb : ∀ id, b ≠ .objectId id) :
    orderScalars (a.rename f) b = orderScalars a b := by
  cases a with
  | objectId id =>
    cases b with
    | objectId other => exact absurd rfl (hb other)
    | _ => rfl
  | _ => rfl

theorem orderScalars_rename_right {a b : Value} (ha : ∀ id, a ≠ .objectId id) :
    orderScalars a (b.rename f) = orderScalars a b := by
  rw [orderScalars_swap, orderScalars_rename_left ha, ← orderScalars_swap]

theorem ne_objectId_of_idFree {v : Value} (h : v.idFree = true) (id : ObjectId) :
    v ≠ .objectId id := by
  rintro rfl
  cases h

mutual

/-- Beside a value without identifiers those of another one do not count. -/
theorem order_rename_left (a b : Value) (hb : b.idFree = true) :
    order (a.rename f) b = order a b := by
  rw [order.eq_def a b]
  split
  · rw [rename, order, renameFields_order _ _ hb]
  · rw [rename, order, renameItems_order _ _ hb]
  · next hdocument harray =>
    rw [order.eq_3, classRank_rename, orderScalars_rename_left (ne_objectId_of_idFree hb)]
    · intro x y hx hy
      cases a <;> cases hx
      exact hdocument _ _ rfl hy
    · intro x y hx hy
      cases a <;> cases hx
      exact harray _ _ rfl hy

theorem renameItems_order (as bs : List Value) (hb : itemsIdFree bs = true) :
    orderItems (renameItems f as) bs = orderItems as bs := by
  match as, bs with
  | [], [] => rfl
  | [], _ :: _ => rfl
  | _ :: _, [] => rfl
  | a :: as, b :: bs =>
    obtain ⟨hb, hbs⟩ := Bool.and_eq_true_iff.mp hb
    rw [renameItems, orderItems, orderItems, order_rename_left a b hb, renameItems_order as bs hbs]

theorem renameFields_order (as bs : List (String × Value)) (hb : fieldsIdFree bs = true) :
    orderFields (renameFields f as) bs = orderFields as bs := by
  match as, bs with
  | [], [] => rfl
  | [], _ :: _ => rfl
  | _ :: _, [] => rfl
  | (k, a) :: as, (l, b) :: bs =>
    obtain ⟨hb, hbs⟩ := Bool.and_eq_true_iff.mp hb
    rw [renameFields, orderFields, orderFields, order_rename_left a b hb,
      renameFields_order as bs hbs]

end

theorem equal_rename_left (a b : Value) (hb : b.idFree = true) : (a.rename f).equal b = a.equal b := by
  rw [equal, equal, order_rename_left a b hb]

theorem bits_toNat_injective {a b : ObjectId} (h : a.bits.toNat = b.bits.toNat) : a = b := by
  obtain ⟨a⟩ := a
  obtain ⟨b⟩ := b
  exact congrArg ObjectId.mk (BitVec.eq_of_toNat_eq h)

theorem orderScalars_rename_eq_iff (hf : Function.Injective f) (a b : Value) :
    orderScalars (a.rename f) (b.rename f) = .eq ↔ orderScalars a b = .eq := by
  by_cases hb : ∀ id, b ≠ .objectId id
  · have hb' (id : ObjectId) : b.rename f ≠ .objectId id := by
      intro h
      cases b <;> cases h
      exact hb _ rfl
    rw [orderScalars_rename_left hb']
    by_cases ha : ∀ id, a ≠ .objectId id
    · rw [orderScalars_rename_right ha]
    · obtain ⟨id, hid⟩ := Classical.not_forall.mp ha
      cases Classical.not_not.mp hid
      cases b <;> first | exact Iff.rfl | exact absurd rfl (hb _)
  · obtain ⟨y, hy⟩ := Classical.not_forall.mp hb
    cases Classical.not_not.mp hy
    cases a with
    | objectId x =>
      change compare (f x).bits.toNat (f y).bits.toNat = .eq ↔
        compare x.bits.toNat y.bits.toNat = .eq
      rw [Std.LawfulEqOrd.compare_eq_iff_eq, Std.LawfulEqOrd.compare_eq_iff_eq]
      exact ⟨fun h => by rw [hf (bits_toNat_injective h)],
        fun h => by rw [bits_toNat_injective h]⟩
    | _ => exact Iff.rfl

mutual

/-- Values stay equal or different when different identifiers keep different names. -/
theorem order_rename_eq_iff (hf : Function.Injective f) (a b : Value) :
    order (a.rename f) (b.rename f) = .eq ↔ order a b = .eq := by
  rw [order.eq_def a b]
  split
  · rw [rename, rename, order, orderFields_rename_eq_iff hf]
  · rw [rename, rename, order, orderItems_rename_eq_iff hf]
  · next hdocument harray =>
    rw [order.eq_3, classRank_rename, classRank_rename, Ordering.then_eq_eq, Ordering.then_eq_eq,
      orderScalars_rename_eq_iff hf]
    · intro x y hx hy
      cases a <;> cases hx
      cases b <;> cases hy
      exact hdocument _ _ rfl rfl
    · intro x y hx hy
      cases a <;> cases hx
      cases b <;> cases hy
      exact harray _ _ rfl rfl

theorem orderItems_rename_eq_iff (hf : Function.Injective f) (as bs : List Value) :
    orderItems (renameItems f as) (renameItems f bs) = .eq ↔ orderItems as bs = .eq := by
  match as, bs with
  | [], [] => exact Iff.rfl
  | [], _ :: _ => exact Iff.rfl
  | _ :: _, [] => exact Iff.rfl
  | a :: as, b :: bs =>
    rw [renameItems, renameItems, orderItems, orderItems, Ordering.then_eq_eq, Ordering.then_eq_eq,
      order_rename_eq_iff hf a b, orderItems_rename_eq_iff hf as bs]

theorem orderFields_rename_eq_iff (hf : Function.Injective f) (as bs : List (String × Value)) :
    orderFields (renameFields f as) (renameFields f bs) = .eq ↔ orderFields as bs = .eq := by
  match as, bs with
  | [], [] => exact Iff.rfl
  | [], _ :: _ => exact Iff.rfl
  | _ :: _, [] => exact Iff.rfl
  | (k, a) :: as, (l, b) :: bs =>
    rw [renameFields, renameFields, orderFields, orderFields, Ordering.then_eq_eq,
      Ordering.then_eq_eq, Ordering.then_eq_eq, Ordering.then_eq_eq, order_rename_eq_iff hf a b,
      orderFields_rename_eq_iff hf as bs]

end

theorem equal_rename (hf : Function.Injective f) (a b : Value) :
    (a.rename f).equal (b.rename f) = a.equal b := by
  rw [Bool.eq_iff_iff, equal, equal, beq_iff_eq, beq_iff_eq, order_rename_eq_iff hf]

theorem renameFields_length (d : List (String × Value)) : (renameFields f d).length = d.length := by
  rw [renameFields_eq, Document.rename, List.length_map]

theorem lookup_renameFields (key : String) (d : List (String × Value)) :
    (renameFields f d).lookup key = (d.lookup key).map (rename f) := by
  rw [renameFields_eq]
  exact Fields.get?_map d (rename f) key

mutual

theorem same_rename (hf : Function.Injective f) (a b : Value) :
    same (a.rename f) (b.rename f) = same a b := by
  cases a with
  | objectId x =>
    cases b with
    | objectId y => exact Bool.eq_iff_iff.mpr (by simp [rename, same, hf.eq_iff])
    | _ => rfl
  | codeWithScope s scope =>
    cases b with
    | codeWithScope t other =>
      rw [rename, rename, same, same, renameFields_length, renameFields_length,
        sameFields_rename hf]
    | _ => rfl
  | array as =>
    cases b with
    | array bs => rw [rename, rename, same, same, sameItems_rename hf]
    | _ => rfl
  | document d =>
    cases b with
    | document e =>
      rw [rename, rename, same, same, renameFields_length, renameFields_length,
        sameFields_rename hf]
    | _ => rfl
  | _ => cases b <;> rfl

theorem sameItems_rename (hf : Function.Injective f) (as bs : List Value) :
    sameItems (renameItems f as) (renameItems f bs) = sameItems as bs := by
  match as, bs with
  | [], [] => rfl
  | [], _ :: _ => rfl
  | _ :: _, [] => rfl
  | a :: as, b :: bs =>
    rw [renameItems, renameItems, sameItems, sameItems, same_rename hf a b,
      sameItems_rename hf as bs]

theorem sameFields_rename (hf : Function.Injective f) (as bs : List (String × Value)) :
    sameFields (renameFields f as) (renameFields f bs) = sameFields as bs := by
  match as with
  | [] => rfl
  | (k, a) :: as =>
    rw [renameFields, sameFields, sameFields, lookup_renameFields, sameFields_rename hf as bs]
    cases hb : bs.lookup k with
    | none => rfl
    | some b =>
      rw [Option.map_some]
      dsimp only
      rw [same_rename hf a b]

end

end Value

namespace Document

/-! ### Fields -/

@[simp] theorem rename_nil : rename f [] = [] := rfl

theorem rename_cons (e : String × Value) (d : Document) :
    rename f (e :: d) = (e.1, e.2.rename f) :: d.rename f := rfl

@[simp] theorem keys_rename (d : Document) : Fields.keys (d.rename f) = d.keys := by
  rw [Fields.keys, Fields.keys, rename, List.map_map]
  rfl

theorem get?_rename (d : Document) (key : String) :
    Fields.get? (d.rename f) key = (d.get? key).map (Value.rename f) :=
  Fields.get?_map d (Value.rename f) key

@[simp] theorem has_rename (d : Document) (key : String) :
    Fields.has (d.rename f) key = d.has key := by
  rw [Fields.has_eq_isSome, Fields.has_eq_isSome, get?_rename, Option.isSome_map]

theorem set_rename (d : Document) (key : String) (v : Value) :
    Fields.set key (v.rename f) (d.rename f) = rename f (d.set key v) :=
  Fields.set_map d (Value.rename f) key v

theorem setAll_rename (d more : Document) :
    Fields.setAll (d.rename f) (more.rename f) = rename f (d.setAll more) :=
  Fields.setAll_map d (Value.rename f) more

theorem erase_rename (d : Document) (key : String) :
    Fields.erase (d.rename f) key = rename f (d.erase key) := by
  rw [Fields.erase, Fields.erase, rename, rename, List.filter_map]
  rfl

theorem rename_of_idFree {d : Document} (h : d.IdFree) : d.rename f = d := by
  rw [← Value.renameFields_eq, Value.renameFields_of_idFree d (Value.fieldsIdFree_iff.mpr h)]

/-! ### Paths -/

theorem getSegments?_rename (ss : List String) (d : Document) :
    getSegments? ss (d.rename f) = (getSegments? ss d).map (Value.rename f) := by
  induction ss generalizing d with
  | nil => rfl
  | cons s ss ih =>
    by_cases hss : ss = []
    · rw [hss]
      exact get?_rename d s
    rw [getSegments?, getSegments?, get?_rename]
    · cases d.get? s with
      | none => rfl
      | some v =>
        cases v with
        | document inner =>
          rw [Option.map_some, Value.rename_document]
          exact ih inner
        | _ => rfl
    all_goals exact hss

theorem getPath?_rename (d : Document) (path : String) :
    (d.rename f).getPath? path = (d.getPath? path).map (Value.rename f) :=
  getSegments?_rename (pathSegments path) d

theorem setSegments_rename (v : Value) (ss : List String) (d : Document) :
    setSegments (v.rename f) ss (d.rename f) = (setSegments v ss d).rename f := by
  induction ss generalizing d with
  | nil => rfl
  | cons s ss ih =>
    by_cases hss : ss = []
    · rw [hss]
      exact set_rename d s v
    have hempty := ih []
    rw [setSegments, setSegments, get?_rename]
    · cases d.get? s with
      | none =>
        dsimp only [Option.map_none]
        rw [← set_rename, Value.rename_document, ← hempty, rename_nil]
      | some w =>
        cases w with
        | document inner =>
          rw [Option.map_some, Value.rename_document]
          dsimp only
          rw [← set_rename, Value.rename_document, ← ih inner]
        | _ =>
          dsimp only [Option.map_some, Value.rename]
          rw [← set_rename, Value.rename_document, ← hempty, rename_nil]
    all_goals exact hss

theorem setPath_rename (d : Document) (path : String) (v : Value) :
    (d.rename f).setPath path (v.rename f) = (d.setPath path v).rename f := by
  rw [setPath_eq, setPath_eq, setSegments_rename]

theorem eraseSegments_rename (ss : List String) (d : Document) :
    eraseSegments ss (d.rename f) = (eraseSegments ss d).rename f := by
  induction ss generalizing d with
  | nil => rfl
  | cons s ss ih =>
    by_cases hss : ss = []
    · rw [hss]
      exact erase_rename d s
    rw [eraseSegments, eraseSegments, get?_rename]
    · cases d.get? s with
      | none => rfl
      | some w =>
        cases w with
        | document inner =>
          rw [Option.map_some, Value.rename_document]
          dsimp only
          rw [← set_rename, Value.rename_document, ← ih inner]
        | _ => rfl
    all_goals exact hss

theorem removePath_rename (d : Document) (path : String) :
    (d.rename f).removePath path =
      ((d.removePath path).1.rename f, (d.removePath path).2.map (Value.rename f)) := by
  rw [removePath_eq, removePath_eq, eraseSegments_rename, getPath?_rename]

/-! ### Documents without identifiers -/

namespace IdFree

variable {d e : Document}

theorem nil : IdFree [] := fun _ he => absurd he List.not_mem_nil

theorem cons {key : String} {v : Value} (hv : v.idFree = true) (hd : d.IdFree) :
    IdFree ((key, v) :: d) :=
  List.forall_mem_cons.mpr ⟨hv, hd⟩

theorem singleton (key : String) {v : Value} (hv : v.idFree = true) : IdFree [(key, v)] :=
  cons hv nil

theorem append (hd : d.IdFree) (he : e.IdFree) : IdFree (d ++ e) :=
  List.forall_mem_append.mpr ⟨hd, he⟩

theorem get? (hd : d.IdFree) {key : String} {v : Value} (h : d.get? key = some v) :
    v.idFree = true :=
  hd _ (Fields.mem_of_get? h)

theorem set (hd : d.IdFree) (key : String) {v : Value} (hv : v.idFree = true) :
    IdFree (d.set key v) := by
  intro e he
  rcases Fields.mem_of_mem_set he with rfl | he
  · exact hv
  · exact hd e he

theorem setAll (hd : d.IdFree) (he : e.IdFree) : IdFree (d.setAll e) :=
  fun x hx => (Fields.mem_of_mem_setAll hx).elim (hd x) (he x)

theorem ofList {fields : List (String × Value)} (h : ∀ e ∈ fields, e.2.idFree = true) :
    IdFree (Fields.ofList fields) :=
  nil.setAll h

theorem getSegments? {ss : List String} (hd : d.IdFree) {v : Value}
    (h : d.getSegments? ss = some v) : v.idFree = true := by
  induction ss generalizing d with
  | nil => cases h
  | cons s ss ih =>
    by_cases hss : ss = []
    · rw [hss] at h
      exact hd.get? h
    rw [Document.getSegments?] at h
    · split at h
      · next hs => exact ih (Value.idFree_document.mp (hd.get? hs)) h
      · cases h
    · exact hss

theorem setSegments (hd : d.IdFree) (ss : List String) {v : Value} (hv : v.idFree = true) :
    IdFree (d.setSegments v ss) := by
  induction ss generalizing d with
  | nil => exact hd
  | cons s ss ih =>
    by_cases hss : ss = []
    · rw [hss]
      exact hd.set s hv
    rw [Document.setSegments]
    · split
      · next hs =>
        exact hd.set s (Value.idFree_document.mpr (ih (Value.idFree_document.mp (hd.get? hs))))
      · exact hd.set s (Value.idFree_document.mpr (ih nil))
    · exact hss

theorem eraseSegments (hd : d.IdFree) (ss : List String) : IdFree (d.eraseSegments ss) := by
  induction ss generalizing d with
  | nil => exact hd
  | cons s ss ih =>
    by_cases hss : ss = []
    · rw [hss]
      exact fun e he => hd e (List.mem_filter.mp he).1
    rw [Document.eraseSegments]
    · split
      · next hs =>
        exact hd.set s (Value.idFree_document.mpr (ih (Value.idFree_document.mp (hd.get? hs))))
      · exact hd
    · exact hss

end IdFree

end Document

end SqlGateway
