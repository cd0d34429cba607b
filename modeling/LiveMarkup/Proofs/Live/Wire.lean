import LiveMarkup.Live.Change
import LiveMarkup.Proofs.Json.Reading

/-!
Changes in transit. A change is read back from the text in which it travels, and of an object only
the members count that a change has.

* `Change.valuesOf`: what the members of an object give to a key;
* `Change.ofJson?_record`: which objects stand for a change;
* `Change.transit_faithful`: what is read from the text of a change, and from the text of an object.
-/

namespace LiveMarkup.Change

/-- The keys of the members that a change has. -/
def keys : List String :=
  ["type", "uid", "src"]

/-- Whether a member is one that a change has. -/
def isKnown (m : Option Text × Json) : Bool :=
  keys.any fun key => m.1 == some key.toList

/-- The values that the members give to a key, in order. -/
def valuesOf (members : List (Option Text × Json)) (key : String) : List Json :=
  (members.filter (·.1 == some key.toList)).map (·.2)

/-- The members that a change does not have are named, and their values can be kept. -/
structure Acceptable (members : List (Option Text × Json)) : Prop where
  named : ∀ m ∈ members, m.1.isSome
  kept : ∀ m ∈ members, isKnown m = false → (m.2.datum? Json.innerRoom).isSome

/-- Why the members give no text to a key. -/
inductive Wants (members : List (Option Text × Json)) (key : String) : Prop
  | missing (none : valuesOf members key = [])
  | repeated (twice : 2 ≤ (valuesOf members key).length)
  | untold {v : Json} (only : valuesOf members key = [v]) (other : ∀ t, v ≠ Json.text t)

variable {members : List (Option Text × Json)}

theorem wants_or_text (members : List (Option Text × Json)) (key : String) :
    Wants members key ∨ ∃ t, valuesOf members key = [Json.text t] := by
  match held : valuesOf members key with
  | [] => exact Or.inl (.missing held)
  | _ :: _ :: _ => exact Or.inl (.repeated (by simp [held]))
  | [.string (some t)] => exact Or.inr ⟨t, rfl⟩
  | [.string none] => exact Or.inl (.untold held fun _ same => by cases same)
  | [.null] | [.bool _] | [.number _] | [.list _] | [.record _] =>
    exact Or.inl (.untold held fun _ same => by cases same)

theorem not_wants {key : String} {t : Text} (held : valuesOf members key = [Json.text t]) :
    ¬ Wants members key := by
  intro wants
  cases wants with
  | missing none => simp [held] at none
  | repeated twice => simp [held] at twice
  | untold only other =>
    rw [held] at only
    exact other t (List.cons.inj only).1.symm

/-- A key has a text if it is given one value, and this is the text. -/
theorem member?_eq_some {key : String} {t : Text} :
    member? members key = some t ↔ valuesOf members key = [Json.text t] := by
  unfold member? valuesOf
  split
  · rename_i t' only
    simp [only, Json.text]
  · rename_i other
    constructor
    · intro none
      cases none
    · intro only
      obtain ⟨⟨k, v⟩, found, rfl⟩ := List.map_eq_singleton_iff.mp only
      exact absurd found (other k (some t))

theorem mapM_isSome_iff {α β : Type} (f : α → Option β) (items : List α) :
    (items.mapM f).isSome ↔ ∀ a ∈ items, (f a).isSome := by
  induction items with
  | nil => simp
  | cons a items ih =>
    cases held : f a with
    | none => simp [List.mapM_cons, held]
    | some b => cases rest : items.mapM f <;> simp_all [List.mapM_cons]

theorem mem_valuesOf_of_known {m : Option Text × Json} (member : m ∈ members)
    (known : isKnown m = true) : ∃ key ∈ keys, m.2 ∈ valuesOf members key := by
  obtain ⟨key, listed, same⟩ := List.any_eq_true.mp known
  exact ⟨key, listed, List.mem_map_of_mem (List.mem_filter.mpr ⟨member, same⟩)⟩

/-- If the members that a change has give texts, then all values can be kept. -/
theorem Acceptable.isSome_datum? (acceptable : Acceptable members)
    (told : ∀ key ∈ keys, ∃ t, valuesOf members key = [Json.text t]) :
    ∀ m ∈ members, (m.2.datum? Json.innerRoom).isSome := by
  intro m member
  cases known : isKnown m with
  | false => exact acceptable.kept m member known
  | true =>
    obtain ⟨key, listed, among⟩ := mem_valuesOf_of_known member known
    obtain ⟨t, only⟩ := told key listed
    rw [only, List.mem_singleton] at among
    rw [among, Json.text, Json.datum?]
    rfl

/-- Which objects stand for a change. -/
theorem ofJson?_record {c : Change} : ofJson? (.record members) = some c ↔
    Acceptable members ∧ valuesOf members "type" = [Json.text "change".toList] ∧
      valuesOf members "uid" = [Json.text c.uid] ∧ valuesOf members "src" = [Json.text c.src] := by
  have named : members.any (·.1.isNone) = false ↔ ∀ m ∈ members, m.1.isSome := by
    simp [List.any_eq_false, Option.ne_none_iff_isSome]
  have kept := mapM_isSome_iff (fun m => m.2.datum? Json.innerRoom) members
  simp only [← member?_eq_some]
  constructor
  · intro made
    unfold ofJson? at made
    cases unnamed : members.any (·.1.isNone) with
    | true =>
      simp only [unnamed, if_true, Option.bind_eq_bind, Option.bind_none, reduceCtorEq] at made
    | false =>
    cases held : members.mapM fun m => m.2.datum? Json.innerRoom with
    | none =>
      simp only [unnamed, held, Option.bind_eq_bind, Option.bind_none, Bool.false_eq_true, if_false,
        reduceCtorEq] at made
    | some _ =>
    have acceptable : Acceptable members :=
      ⟨named.mp unnamed, fun m member _ => kept.mp (by rw [held]; rfl) m member⟩
    simp only [unnamed, held, Option.bind_eq_bind, Option.bind_some, Bool.false_eq_true, if_false,
      Option.bind_eq_some_iff, Option.ite_none_right_eq_some, Option.some.injEq] at made
    obtain ⟨_, kind, rfl, uid, told, src, shown, rfl⟩ := made
    exact ⟨acceptable, kind, told, shown⟩
  · rintro ⟨acceptable, kind, uid, src⟩
    have told : ∀ key ∈ keys, ∃ t, valuesOf members key = [Json.text t] := by
      simp only [keys, List.forall_mem_cons, ← member?_eq_some]
      exact ⟨⟨_, kind⟩, ⟨_, uid⟩, ⟨_, src⟩, fun _ none => absurd none List.not_mem_nil⟩
    obtain ⟨_, held⟩ := Option.isSome_iff_exists.mp (kept.mpr (acceptable.isSome_datum? told))
    simp only [ofJson?, named.mpr acceptable.named, held, kind, uid, src, Bool.false_eq_true,
      if_false, if_true, Option.bind_eq_bind, Option.bind_some]

/-! ### Texts in transit -/

theorem toJson_plain (c : Change) : c.toJson.Plain := by
  refine .record ?_ ?_
  · simp
  · simp only [List.map_cons, List.map_nil, List.forall_mem_cons]
    exact ⟨.text _, .text _, .text _, fun _ none => absurd none List.not_mem_nil⟩

theorem read?_wire (c : Change) : read? c.wire = some c := by
  have held : Json.read? c.wire = some c.toJson := Json.read?_render c.toJson_plain
  rw [read?, held]
  rfl

theorem read?_of_record {t : Text} (held : Json.read? t = some (.record members)) :
    read? t = ofJson? (.record members) := by
  rw [read?, held]
  rfl

/-- The members that a change has decide what their keys are given. -/
theorem valuesOf_filter_isKnown {key : String} (known : key ∈ keys) :
    valuesOf (members.filter isKnown) key = valuesOf members key := by
  unfold valuesOf
  rw [List.filter_filter]
  congr 2
  funext m
  cases same : m.1 == some key.toList with
  | false => rfl
  | true => simpa [isKnown] using ⟨key, known, by simpa using same⟩

theorem valuesOf_perm {members' : List (Option Text × Json)} (perm : members'.Perm members)
    (key : String) : (valuesOf members' key).Perm (valuesOf members key) :=
  (perm.filter _).map _

/-- An object is read as no change if a key lacks its text or another kind is told, and only
then. -/
theorem ofJson?_record_eq_none (acceptable : Acceptable members) :
    ofJson? (.record members) = none ↔ (∃ key ∈ keys, Wants members key) ∨
      ∃ kind, kind ≠ "change".toList ∧ valuesOf members "type" = [Json.text kind] := by
  constructor
  · intro unread
    obtain wants | ⟨kind, type⟩ := wants_or_text members "type"
    · exact Or.inl ⟨_, by decide, wants⟩
    obtain wants | ⟨uid, file⟩ := wants_or_text members "uid"
    · exact Or.inl ⟨_, by decide, wants⟩
    obtain wants | ⟨src, source⟩ := wants_or_text members "src"
    · exact Or.inl ⟨_, by decide, wants⟩
    refine Or.inr ⟨kind, ?_, type⟩
    rintro rfl
    have read := ofJson?_record (c := ⟨uid, src⟩).mpr ⟨acceptable, type, file, source⟩
    rw [unread] at read
    cases read
  · intro why
    cases made : ofJson? (.record members) with
    | none => rfl
    | some c =>
    obtain ⟨-, type, uid, src⟩ := ofJson?_record.mp made
    obtain ⟨key, listed, wants⟩ | ⟨kind, other, told⟩ := why
    · have texts : ∀ key ∈ keys, ¬ Wants members key := by
        simp only [keys, List.forall_mem_cons]
        exact ⟨not_wants type, not_wants uid, not_wants src,
          fun _ none => absurd none List.not_mem_nil⟩
      exact absurd wants (texts key listed)
    · rw [type] at told
      cases told
      exact absurd rfl other

/-- What an object is read as does not depend on its other members, nor on the order of any. -/
theorem ofJson?_record_congr {members' : List (Option Text × Json)}
    (acceptable : Acceptable members) (acceptable' : Acceptable members')
    (same : (members'.filter isKnown).Perm (members.filter isKnown)) :
    ofJson? (.record members') = ofJson? (.record members) := by
  have given (key : String) (known : key ∈ keys) (v : Json) :
      valuesOf members' key = [v] ↔ valuesOf members key = [v] := by
    have perm := valuesOf_perm same key
    rw [valuesOf_filter_isKnown known, valuesOf_filter_isKnown known] at perm
    constructor
    · intro only
      rw [only] at perm
      exact perm.singleton_eq.symm
    · intro only
      rw [only] at perm
      exact perm.eq_singleton
  refine Option.ext fun c => ?_
  rw [ofJson?_record, ofJson?_record, given _ (by decide), given _ (by decide),
    given _ (by decide)]
  simp only [acceptable, acceptable']

/-- A change is read back from its text, so that those who read the texts of some changes have the
changes themselves. An object whose other members are acceptable is read as a change if it tells the
kind `change`, the file and the source, each once and as a text; it is read as none if and only if
one of the three is missing, repeated or no text, or another kind is told. The order of its members
and the members with other keys have no part in this. -/
theorem transit_faithful :
    (∀ c : Change, read? c.wire = some c) ∧
    (∀ changes : List Change, (changes.map wire).filterMap read? = changes) ∧
    ∀ t members, Json.read? t = some (.record members) → Acceptable members →
      (∀ c, read? t = some c ↔ valuesOf members "type" = [Json.text "change".toList] ∧
        valuesOf members "uid" = [Json.text c.uid] ∧
        valuesOf members "src" = [Json.text c.src]) ∧
      (read? t = none ↔ (∃ key ∈ keys, Wants members key) ∨
        ∃ kind, kind ≠ "change".toList ∧ valuesOf members "type" = [Json.text kind]) ∧
      ∀ t' members', Json.read? t' = some (.record members') → Acceptable members' →
        (members'.filter isKnown).Perm (members.filter isKnown) → read? t' = read? t := by
  refine ⟨read?_wire, fun changes => ?_, fun t members held acceptable => ⟨fun c => ?_, ?_, ?_⟩⟩
  · simp only [List.filterMap_map, Function.comp_def, read?_wire, List.filterMap_some]
  · rw [read?_of_record held, ofJson?_record]
    exact and_iff_right acceptable
  · rw [read?_of_record held]
    exact ofJson?_record_eq_none acceptable
  · intro t' members' held' acceptable' same
    rw [read?_of_record held, read?_of_record held']
    exact ofJson?_record_congr acceptable acceptable' same

/-- An object with blanks, in another order, with one more member and with an escape that need not
be is read as the change that it tells; one with two sources is not read. -/
theorem transit_faithful_shuffled :
    let t := "\x7b \"src\": \"<br\\/>\", \"n\": [true, \x7b\x7d], \"type\":\"change\"".toList
    let c : Change := ⟨"a.html".toList, "<br/>".toList⟩
    let once := t ++ ",\"uid\":\"a.html\" \x7d".toList
    let twice := t ++ ",\"src\":\"\",\"uid\":\"a.html\"\x7d".toList
    read? once = some c ∧ read? c.wire = some c ∧ read? once = read? c.wire ∧
      read? twice = none := by
  intro t c once twice
  obtain ⟨sent, -, told⟩ := transit_faithful
  let src : Option Text × Json := (some "src".toList, Json.text "<br/>".toList)
  let n : Option Text × Json := (some "n".toList, .list [.bool true, .record []])
  let type : Option Text × Json := (some "type".toList, Json.text "change".toList)
  let uid : Option Text × Json := (some "uid".toList, Json.text "a.html".toList)
  let other : Option Text × Json := (some "src".toList, Json.text [])
  have onceHeld : Json.read? once = some (.record [src, n, type, uid]) := by
    unfold once t src n type uid
    cbv
  have twiceHeld : Json.read? twice = some (.record [src, n, type, other, uid]) := by
    unfold twice t src n type other uid
    cbv
  have wireHeld : Json.read? c.wire = some (.record [type, uid, src]) :=
    Json.read?_render c.toJson_plain
  have acceptable : Acceptable [src, n, type, uid] := ⟨by decide, by decide⟩
  have acceptable' : Acceptable [src, n, type, other, uid] := ⟨by decide, by decide⟩
  have acceptable'' : Acceptable [type, uid, src] := ⟨by decide, by decide⟩
  obtain ⟨once, -, -⟩ := told _ _ onceHeld acceptable
  obtain ⟨-, -, again⟩ := told _ _ wireHeld acceptable''
  obtain ⟨-, twice, -⟩ := told _ _ twiceHeld acceptable'
  refine ⟨(once c).mpr ⟨rfl, rfl, rfl⟩, sent c, again _ _ onceHeld acceptable ?_, twice.mpr ?_⟩
  · have shuffled : ([src] ++ [type, uid]).Perm ([type, uid] ++ [src]) := List.perm_append_comm
    exact shuffled
  · exact Or.inl ⟨"src", by decide, .repeated (by decide)⟩

end LiveMarkup.Change
