import Mathlib.Data.List.Nodup

/-!
# Values as JSON

A `Serde` writes the values of a type as JSON and reads them back. Texts, lists and
options are put together from those of their parts, and a record from its `Members`:
what is derived for a record writes its fields as the members of an object and reads
them from an object or from an array.

Each way of building one has two lemmas: what a value is read back as from what it is
written as (`ReadsBack`; the value itself, if it `RoundTrips`), and that whatever is
read would be read back in a normal form of it (`Stable`). Reading an object looks at
the members with the names of the fields only, and takes them in any order
(`deserialize_of_reordered`).

Notes:
- A reader that fails says why, but not here.
- `Json` is what a text is parsed to. A string keeps whether it was escaped in the
  text, as then it cannot be borrowed from it.
-/

namespace BlockBuilder.Lib

inductive Json where
  | null
  | bool (b : Bool)
  | number (n : Nat)
  | string (s : String) (escaped : Bool)
  | array (items : List Json)
  | object (members : List (String × Json))

structure Serde (α : Type) where
  serialize : α → Json
  deserialize : Json → Option α

variable {α β : Type}

namespace Serde

/-- What the first value is written as is read as the second. -/
def ReadsBack (s : Serde α) (x y : α) : Prop := s.deserialize (s.serialize x) = some y

/-- A value is read back from what it is written as. -/
def RoundTrips (s : Serde α) (x : α) : Prop := s.ReadsBack x x

/-- Whatever is read would be read back in its normal form. -/
def Stable (s : Serde α) (normal : α → α) : Prop :=
  ∀ json x, s.deserialize json = some x → s.ReadsBack x (normal x)

theorem Stable.of_roundTrips {s : Serde α} (h : ∀ x, s.RoundTrips x) : s.Stable id :=
  fun _ x _ => h x

/-! ## Texts -/

/-- A text that needs no escape. -/
def text (write : α → String) (read : String → Option α) : Serde α where
  serialize x := .string (write x) false
  deserialize
    | .string s _ => read s
    | _ => none

/-- A text that is borrowed from the input. -/
def borrowed (write : α → String) (read : String → Option α) : Serde α where
  serialize x := .string (write x) false
  deserialize
    | .string s false => read s
    | _ => none

def bool : Serde Bool where
  serialize b := .bool b
  deserialize
    | .bool b => some b
    | _ => none

/-- A type that is written as another. -/
def via (s : Serde β) (into : α → β) (of : β → α) : Serde α where
  serialize x := s.serialize (into x)
  deserialize json := (s.deserialize json).map of

theorem roundTrips_via {s : Serde β} {into : α → β} {of : β → α} {x : α} (hof : of (into x) = x)
    (h : s.RoundTrips (into x)) : (s.via into of).RoundTrips x := by
  show (s.deserialize (s.serialize (into x))).map of = some x
  rw [h, Option.map_some, hof]

/-! ## Options -/

/-- An option is its value or null. -/
def option (s : Serde α) : Serde (Option α) where
  serialize
    | some x => s.serialize x
    | none => .null
  deserialize
    | .null => some none
    | json => (s.deserialize json).map some

/-- What is not null is read as a value. -/
theorem deserialize_option {s : Serde α} {json : Json} (h : json ≠ .null) :
    s.option.deserialize json = (s.deserialize json).map some := by
  cases json with
  | null => exact absurd rfl h
  | _ => rfl

theorem roundTrips_option {s : Serde α} (hnull : ∀ x, s.serialize x ≠ .null) {x : Option α}
    (h : ∀ y, x = some y → s.RoundTrips y) : s.option.RoundTrips x := by
  cases x with
  | none => rfl
  | some y =>
    show s.option.deserialize (s.serialize y) = _
    rw [deserialize_option (hnull y), h y rfl]
    rfl

/-! ## Lists -/

def list (s : Serde α) : Serde (List α) where
  serialize xs := .array (xs.map s.serialize)
  deserialize
    | .array items => items.mapM s.deserialize
    | _ => none

theorem mapM_eq_some {f : β → Option α} : ∀ {items : List β} {xs : List α},
    items.mapM f = some xs ↔ items.map f = xs.map some
  | [], [] => iff_of_true rfl rfl
  | [], _ :: _ => iff_of_false nofun nofun
  | item :: items, xs => by
    rw [List.mapM_cons]
    show (f item).bind _ = _ ↔ _
    rw [Option.bind_eq_some_iff]
    constructor
    · rintro ⟨x, hx, hrest⟩
      obtain ⟨rest, hitems, heq⟩ := Option.bind_eq_some_iff.mp hrest
      cases heq
      rw [List.map_cons, List.map_cons, hx, mapM_eq_some.mp hitems]
    · intro h
      cases xs with
      | nil => cases h
      | cons x xs =>
        obtain ⟨hx, hitems⟩ := List.cons.inj h
        exact ⟨x, hx, Option.bind_eq_some_iff.mpr ⟨xs, mapM_eq_some.mpr hitems, rfl⟩⟩

theorem roundTrips_list {s : Serde α} {xs : List α} :
    s.list.RoundTrips xs ↔ ∀ x ∈ xs, s.RoundTrips x := by
  show (xs.map s.serialize).mapM s.deserialize = some xs ↔ _
  rw [mapM_eq_some, List.map_map, List.map_inj_left]
  rfl

end Serde

/-! ## Records -/

/-- The members with a name. -/
def named (name : String) (members : List (String × Json)) : List (String × Json) :=
  members.filter (·.1 = name)

theorem named_eq_nil {name : String} {members : List (String × Json)}
    (h : name ∉ members.map (·.1)) : named name members = [] := by
  unfold named
  rw [List.filter_eq_nil_iff]
  intro m hm hname
  exact h (of_decide_eq_true hname ▸ List.mem_map_of_mem hm)

/-- The fields of a record under their names in order, their values a nested product. -/
structure Members (names : List String) (α : Type) where
  serialize : α → List (String × Json)
  /-- The fields read from an object. -/
  visitMap : List (String × Json) → Option α
  /-- The fields read from an array. -/
  visitSeq : List Json → Option α
  nodup : names.Nodup
  /-- A field that has nothing to say is left out. -/
  names_serialize : ∀ x, ((serialize x).map (·.1)).Sublist names
  /-- Only the members with the names of the fields are looked at. -/
  visitMap_congr : ∀ ms ms', (∀ name ∈ names, named name ms = named name ms') →
    visitMap ms = visitMap ms'

/-- A field is there once; if it is missing there can be a value for it. -/
def readMember (s : Serde α) (missing : Option α) : List (String × Json) → Option α
  | [] => missing
  | [m] => s.deserialize m.2
  | _ :: _ :: _ => none

variable {names : List String}

namespace Members

def nil : Members [] Unit where
  serialize _ := []
  visitMap _ := some ()
  visitSeq
    | [] => some ()
    | _ :: _ => none
  nodup := .nil
  names_serialize _ := .slnil
  visitMap_congr _ _ _ := rfl

def cons (name : String) (s : Serde α) (fs : Members names β) (missing : Option α := none)
    (hname : name ∉ names := by decide) : Members (name :: names) (α × β) where
  serialize x := (name, s.serialize x.1) :: fs.serialize x.2
  visitMap ms := do
    let first ← readMember s missing (named name ms)
    let rest ← fs.visitMap ms
    return (first, rest)
  visitSeq
    | [] => none
    | item :: items => do
      let first ← s.deserialize item
      let rest ← fs.visitSeq items
      return (first, rest)
  nodup := List.nodup_cons.mpr ⟨hname, fs.nodup⟩
  names_serialize x := (fs.names_serialize x.2).cons_cons name
  visitMap_congr ms ms' h := by
    rw [h name (List.mem_cons_self ..),
      fs.visitMap_congr ms ms' fun name' hmem => h name' (List.mem_cons_of_mem _ hmem)]

/-- A field that is an option, and is left out if it is none. -/
def skip (name : String) (s : Serde α) (fs : Members names β) (hname : name ∉ names := by decide) :
    Members (name :: names) (Option α × β) where
  serialize
    | (some x, rest) => (name, s.serialize x) :: fs.serialize rest
    | (none, rest) => fs.serialize rest
  visitMap := (cons name s.option fs (some none) hname).visitMap
  visitSeq := (cons name s.option fs (some none) hname).visitSeq
  nodup := (cons name s.option fs (some none) hname).nodup
  names_serialize
    | (some _, rest) => (fs.names_serialize rest).cons_cons name
    | (none, rest) => (fs.names_serialize rest).cons name
  visitMap_congr := (cons name s.option fs (some none) hname).visitMap_congr

def ReadsBack (fs : Members names α) (x y : α) : Prop := fs.visitMap (fs.serialize x) = some y

/-- Whatever is read would be read back in its normal form. -/
structure Stable (fs : Members names α) (normal : α → α) : Prop where
  map : ∀ ms x, fs.visitMap ms = some x → fs.ReadsBack x (normal x)
  seq : ∀ items x, fs.visitSeq items = some x → fs.ReadsBack x (normal x)

theorem readsBack_nil : nil.ReadsBack () () := rfl

theorem Stable.nil : Members.nil.Stable id where
  map _ _ _ := rfl
  seq _ _ _ := rfl

variable {name : String} {missing : Option α} {s : Serde α} {fs : Members names β}
  {hname : name ∉ names}

/-- What is written first does not hide the fields after it. -/
theorem visitMap_cons_serialize (hname : name ∉ names) (json : Json) (y : β) :
    fs.visitMap ((name, json) :: fs.serialize y) = fs.visitMap (fs.serialize y) := by
  refine fs.visitMap_congr _ _ fun name' hmem => ?_
  unfold named
  rw [List.filter_cons_of_neg]
  intro heq
  have hsame : name = name' := of_decide_eq_true heq
  exact hname (hsame ▸ hmem)

theorem named_serialize (hname : name ∉ names) (y : β) : named name (fs.serialize y) = [] :=
  named_eq_nil fun hin => hname ((fs.names_serialize y).subset hin)

theorem readsBack_cons {x x' : α} {y y' : β} :
    (cons name s fs missing hname).ReadsBack (x, y) (x', y') ↔ s.ReadsBack x x' ∧ fs.ReadsBack y y' := by
  have hfirst : named name ((name, s.serialize x) :: fs.serialize y) = [(name, s.serialize x)] := by
    have hrest : named name (fs.serialize y) = [] := named_serialize hname y
    unfold named at hrest ⊢
    simp only [List.filter_cons, decide_true, if_true, hrest]
  show ((readMember s missing (named name ((name, s.serialize x) :: fs.serialize y))).bind fun first =>
    (fs.visitMap ((name, s.serialize x) :: fs.serialize y)).bind fun rest => some (first, rest)) = _ ↔ _
  rw [hfirst, visitMap_cons_serialize hname]
  constructor
  · intro h
    obtain ⟨first, hx, hrest⟩ := Option.bind_eq_some_iff.mp h
    obtain ⟨rest, hy, heq⟩ := Option.bind_eq_some_iff.mp hrest
    cases heq
    exact ⟨hx, hy⟩
  · rintro ⟨hx, hy⟩
    exact Option.bind_eq_some_iff.mpr ⟨x', hx, Option.bind_eq_some_iff.mpr ⟨y', hy, rfl⟩⟩

/-- Where the first field is read back it is the others that matter. -/
theorem readsBack_tail {x : α} {y y' : β} (hx : s.RoundTrips x) :
    (cons name s fs missing hname).ReadsBack (x, y) (x, y') ↔ fs.ReadsBack y y' :=
  readsBack_cons.trans (and_iff_right hx)

/-- An option that is left out is read back too. -/
theorem readsBack_skip (hnull : ∀ v, s.serialize v ≠ .null) {x : Option α} {y y' : β}
    (hx : ∀ v, x = some v → s.RoundTrips v) :
    (skip name s fs hname).ReadsBack (x, y) (x, y') ↔ fs.ReadsBack y y' := by
  cases x with
  | some v =>
    show (cons name s.option fs (some none) hname).ReadsBack (some v, y) (some v, y') ↔ _
    exact readsBack_tail (Serde.roundTrips_option hnull hx)
  | none =>
    show ((readMember s.option (some none) (named name (fs.serialize y))).bind fun first =>
      (fs.visitMap (fs.serialize y)).bind fun rest => some (first, rest)) = _ ↔ _
    rw [named_serialize hname]
    constructor
    · intro h
      obtain ⟨first, hfirst, hrest⟩ := Option.bind_eq_some_iff.mp h
      obtain ⟨rest, hy, heq⟩ := Option.bind_eq_some_iff.mp hrest
      cases heq
      exact hy
    · intro h
      exact Option.bind_eq_some_iff.mpr ⟨none, rfl, Option.bind_eq_some_iff.mpr ⟨y', h, rfl⟩⟩

theorem stable_cons {n : α → α} {m : β → β} (hs : s.Stable n)
    (hmissing : ∀ x, missing = some x → s.ReadsBack x (n x)) (hfs : fs.Stable m) :
    (cons name s fs missing hname).Stable (Prod.map n m) where
  map := by
    rintro ms ⟨x, y⟩ h
    obtain ⟨first, hfirst, hrest⟩ := Option.bind_eq_some_iff.mp h
    obtain ⟨rest, hy, heq⟩ := Option.bind_eq_some_iff.mp hrest
    cases heq
    refine readsBack_cons.mpr ⟨?_, hfs.map ms y hy⟩
    unfold readMember at hfirst
    split at hfirst
    next => exact hmissing x hfirst
    next => exact hs _ x hfirst
    next => cases hfirst
  seq := by
    rintro items ⟨x, y⟩ h
    cases items with
    | nil => cases h
    | cons item items =>
      obtain ⟨first, hfirst, hrest⟩ := Option.bind_eq_some_iff.mp h
      obtain ⟨rest, hy, heq⟩ := Option.bind_eq_some_iff.mp hrest
      cases heq
      exact readsBack_cons.mpr ⟨hs item x hfirst, hfs.seq items y hy⟩

/-- A field that may not be missing. -/
theorem Stable.cons {n : α → α} {m : β → β} (hs : s.Stable n) (hfs : fs.Stable m) :
    (Members.cons name s fs none hname).Stable (Prod.map n m) :=
  stable_cons hs (fun x hmissing => by cases hmissing) hfs

/-- What else there is does not matter. -/
theorem visitMap_append {fs : Members names α} {ms others : List (String × Json)}
    (hothers : ∀ m ∈ others, m.1 ∉ names) : fs.visitMap (ms ++ others) = fs.visitMap ms := by
  refine fs.visitMap_congr _ _ fun name hmem => ?_
  have hnone : named name others = [] := by
    refine named_eq_nil fun hin => ?_
    obtain ⟨m, hm, rfl⟩ := List.mem_map.mp hin
    exact hothers m hm hmem
  unfold named at hnone ⊢
  rw [List.filter_append, hnone, List.append_nil]

end Members

namespace Serde

/-- A record is written as an object and read from one, or from an array of its fields. -/
def record (fs : Members names β) (fields : α → β) (record : β → α) : Serde α where
  serialize x := .object (fs.serialize (fields x))
  deserialize
    | .object ms => (fs.visitMap ms).map record
    | .array items => (fs.visitSeq items).map record
    | _ => none

variable {fs : Members names β} {fields : α → β} {of : β → α}

theorem readsBack_record (hfields : ∀ y, fields (of y) = y) (hof : ∀ x, of (fields x) = x) {x x' : α} :
    (record fs fields of).ReadsBack x x' ↔ fs.ReadsBack (fields x) (fields x') := by
  show (fs.visitMap (fs.serialize (fields x))).map of = some x' ↔ _
  rw [Option.map_eq_some_iff]
  constructor
  · rintro ⟨y, hy, rfl⟩
    rw [hfields]
    exact hy
  · intro h
    exact ⟨fields x', h, hof x'⟩

theorem stable_record {n : β → β} {normal : α → α} (hfs : fs.Stable n)
    (hfields : ∀ y, fields (of y) = y) (hof : ∀ x, of (fields x) = x)
    (hnormal : ∀ x, fields (normal x) = n (fields x)) : (record fs fields of).Stable normal := by
  intro json x hread
  rw [readsBack_record hfields hof, hnormal]
  cases json with
  | object ms =>
    obtain ⟨y, hy, rfl⟩ := Option.map_eq_some_iff.mp hread
    rw [hfields]
    exact hfs.map ms y hy
  | array items =>
    obtain ⟨y, hy, rfl⟩ := Option.map_eq_some_iff.mp hread
    rw [hfields]
    exact hfs.seq items y hy
  | _ => cases hread

end Serde

/-! ## Members in another order -/

/-- The same but for the order of members, at any depth. -/
inductive Reordered : Json → Json → Prop where
  | refl (json : Json) : Reordered json json
  | trans {json₁ json₂ json₃ : Json} : Reordered json₁ json₂ → Reordered json₂ json₃ →
      Reordered json₁ json₃
  | perm {ms ms' : List (String × Json)} : ms.Perm ms' → Reordered (.object ms) (.object ms')
  | member (name : String) (before after : List (String × Json)) {json json' : Json} :
      Reordered json json' →
      Reordered (.object (before ++ (name, json) :: after)) (.object (before ++ (name, json') :: after))
  | item (before after : List Json) {json json' : Json} : Reordered json json' →
      Reordered (.array (before ++ json :: after)) (.array (before ++ json' :: after))

/-- Reading does not see the order. -/
def Serde.Unordered (s : Serde α) : Prop :=
  ∀ json json', Reordered json json' → s.deserialize json = s.deserialize json'

/-- Fields are read without seeing the order, of members among themselves or inside one. -/
structure Members.Unordered (fs : Members names α) : Prop where
  perm : ∀ ms ms', ms.Perm ms' → fs.visitMap ms = fs.visitMap ms'
  member : ∀ name before after json json', Reordered json json' →
    fs.visitMap (before ++ (name, json) :: after) = fs.visitMap (before ++ (name, json') :: after)
  item : ∀ before after json json', Reordered json json' →
    fs.visitSeq (before ++ json :: after) = fs.visitSeq (before ++ json' :: after)

namespace Serde

theorem Unordered.text (write : α → String) (read : String → Option α) :
    (Serde.text write read).Unordered := by
  intro json json' h
  induction h with
  | refl json => rfl
  | trans h h' ih ih' => exact ih.trans ih'
  | perm hperm => rfl
  | member name before after h ih => rfl
  | item before after h ih => rfl

theorem Unordered.borrowed (write : α → String) (read : String → Option α) :
    (Serde.borrowed write read).Unordered := by
  intro json json' h
  induction h with
  | refl json => rfl
  | trans h h' ih ih' => exact ih.trans ih'
  | perm hperm => rfl
  | member name before after h ih => rfl
  | item before after h ih => rfl

theorem Unordered.via {s : Serde β} (h : s.Unordered) (into : α → β) (of : β → α) :
    (s.via into of).Unordered := by
  intro json json' hsame
  show (s.deserialize json).map of = (s.deserialize json').map of
  rw [h json json' hsame]

theorem Unordered.option {s : Serde α} (hs : s.Unordered) : s.option.Unordered := by
  intro json json' h
  induction h with
  | refl json => rfl
  | trans h h' ih ih' => exact ih.trans ih'
  | perm hperm => exact congrArg (Option.map some) (hs _ _ (.perm hperm))
  | member name before after h ih =>
    exact congrArg (Option.map some) (hs _ _ (.member name before after h))
  | item before after h ih => exact congrArg (Option.map some) (hs _ _ (.item before after h))

theorem Unordered.list {s : Serde α} (hs : s.Unordered) : s.list.Unordered := by
  intro json json' h
  induction h with
  | refl json => rfl
  | trans h h' ih ih' => exact ih.trans ih'
  | perm hperm => rfl
  | member name before after h ih => rfl
  | item before after h ih =>
    show List.mapM s.deserialize _ = List.mapM s.deserialize _
    rw [List.mapM_append, List.mapM_append, List.mapM_cons, List.mapM_cons, hs _ _ h]

theorem Unordered.record {fs : Members names β} (h : fs.Unordered) (fields : α → β) (of : β → α) :
    (Serde.record fs fields of).Unordered := by
  intro json json' hsame
  induction hsame with
  | refl json => rfl
  | trans h h' ih ih' => exact ih.trans ih'
  | perm hperm => exact congrArg (Option.map of) (h.perm _ _ hperm)
  | member name before after hinner ih =>
    exact congrArg (Option.map of) (h.member name before after _ _ hinner)
  | item before after hinner ih => exact congrArg (Option.map of) (h.item before after _ _ hinner)

/-- **A record is read back with its members in any order**, at any depth, and with others
among its own. -/
theorem deserialize_of_reordered {fs : Members names β} {fields : α → β} {of : β → α}
    (hs : (Serde.record fs fields of).Unordered) {x x' : α}
    (h : (Serde.record fs fields of).ReadsBack x x') {others : List (String × Json)}
    (hothers : ∀ m ∈ others, m.1 ∉ names) {json : Json}
    (hjson : Reordered (.object (fs.serialize (fields x) ++ others)) json) :
    (Serde.record fs fields of).deserialize json = some x' := by
  rw [← hs _ _ hjson]
  show (fs.visitMap (fs.serialize (fields x) ++ others)).map of = some x'
  rw [Members.visitMap_append hothers]
  exact h

end Serde

/-- Of two members with a name none is read, in whatever order. -/
theorem readMember_perm (s : Serde α) (missing : Option α) {ms ms' : List (String × Json)}
    (h : ms.Perm ms') : readMember s missing ms = readMember s missing ms' := by
  match ms, ms', h.length_eq with
  | [], [], _ => rfl
  | [m], [m'], _ =>
    rw [List.singleton_perm_singleton.mp h]
  | _ :: _ :: _, _ :: _ :: _, _ => rfl

theorem readMember_member {s : Serde α} (hs : s.Unordered) (missing : Option α) (name : String)
    (before after : List (String × Json)) {json json' : Json} (h : Reordered json json') :
    readMember s missing (before ++ (name, json) :: after) =
      readMember s missing (before ++ (name, json') :: after) := by
  match before, after with
  | [], [] => exact hs json json' h
  | [], _ :: _ => rfl
  | [_], _ => rfl
  | _ :: _ :: _, _ => rfl

namespace Members

theorem Unordered.nil : Members.nil.Unordered where
  perm _ _ _ := rfl
  member _ _ _ _ _ _ := rfl
  item before after json json' _ := by
    cases before with
    | nil => rfl
    | cons item before => rfl

theorem Unordered.cons {name : String} {s : Serde α} {fs : Members names β} {missing : Option α}
    {hname : name ∉ names} (hs : s.Unordered) (hfs : fs.Unordered) :
    (Members.cons name s fs missing hname).Unordered where
  perm ms ms' h := by
    show (readMember s missing (named name ms)).bind (fun first =>
        (fs.visitMap ms).bind fun rest => some (first, rest)) =
      (readMember s missing (named name ms')).bind fun first =>
        (fs.visitMap ms').bind fun rest => some (first, rest)
    have hnamed : (named name ms).Perm (named name ms') := h.filter _
    rw [readMember_perm s missing hnamed, hfs.perm ms ms' h]
  member other before after json json' h := by
    have hfirst : readMember s missing (named name (before ++ (other, json) :: after)) =
        readMember s missing (named name (before ++ (other, json') :: after)) := by
      unfold named
      rw [List.filter_append, List.filter_append]
      by_cases hother : other = name
      · rw [List.filter_cons_of_pos (by simpa using hother),
          List.filter_cons_of_pos (by simpa using hother)]
        exact readMember_member hs missing other _ _ h
      · rw [List.filter_cons_of_neg (by simpa using hother),
          List.filter_cons_of_neg (by simpa using hother)]
    show (readMember s missing (named name (before ++ (other, json) :: after))).bind (fun first =>
        (fs.visitMap (before ++ (other, json) :: after)).bind fun rest => some (first, rest)) =
      (readMember s missing (named name (before ++ (other, json') :: after))).bind fun first =>
        (fs.visitMap (before ++ (other, json') :: after)).bind fun rest => some (first, rest)
    rw [hfirst, hfs.member other before after json json' h]
  item before after json json' h := by
    cases before with
    | nil =>
      show (s.deserialize json).bind (fun first =>
          (fs.visitSeq after).bind fun rest => some (first, rest)) = _
      rw [hs json json' h]
      rfl
    | cons item before =>
      show (s.deserialize item).bind (fun first =>
          (fs.visitSeq (before ++ json :: after)).bind fun rest => some (first, rest)) = _
      rw [hfs.item before after json json' h]
      rfl

theorem Unordered.skip {name : String} {s : Serde α} {fs : Members names β} {hname : name ∉ names}
    (hs : s.Unordered) (hfs : fs.Unordered) : (Members.skip name s fs hname).Unordered :=
  have h : (Members.cons name s.option fs (some none) hname).Unordered := .cons hs.option hfs
  ⟨h.perm, h.member, h.item⟩

end Members

end BlockBuilder.Lib
