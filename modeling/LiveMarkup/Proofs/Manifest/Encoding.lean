import LiveMarkup.Config
import LiveMarkup.Manifest.Json
import LiveMarkup.Proofs.Json.Reading
import Mathlib.Data.List.Nodup

/-!
Manifests as JSON. A manifest is read back from the text that is written for it, and from any object
that gives its keys the same values, where a key that has `null` may as well be left out.

* `Names.ofDatum?_toJson`, `MatchSpec.ofDatum?_toJson`, `MinifySetting.ofDatum?_toJson`: forms of
  different shapes are told apart by the plain data that they become;
* `Field.ReadsBack`: a way to read fields undoes a way to write values;
* `Manifest.Conveyed`: the members of an object give the keys of a manifest its values;
* `Manifest.encoding_faithful`: what is read from the text of a manifest, and the configuration that
  it stands for.
-/

namespace LiveMarkup

namespace Json

variable {α : Type}

/-- The value of something that may be absent. -/
def orNull (write : α → Json) (a : Option α) : Json :=
  (a.map write).getD .null

theorem Plain.orNull {write : α → Json} (plain : ∀ a, (write a).Plain) (a : Option α) :
    (Json.orNull write a).Plain := by
  cases a with
  | none => exact .null
  | some a => exact plain a

theorem Plain.texts (ts : List Text) : (Json.list (ts.map Json.text)).Plain := by
  refine .list fun v member => ?_
  obtain ⟨t, -, rfl⟩ := List.mem_map.mp member
  exact .text t

theorem Plain.object {members : List (Text × Json)} (each : ∀ m ∈ members, m.2.Plain) :
    (Json.object members).Plain := by
  refine .record (fun m member => ?_) fun m member => ?_
  · obtain ⟨_, -, rfl⟩ := List.mem_map.mp member
    rfl
  · obtain ⟨_, among, rfl⟩ := List.mem_map.mp member
    exact each _ among

theorem datumItems?_texts (room : Nat) (ts : List Text) :
    datumItems? room (ts.map Json.text) = some (ts.map .text) := by
  induction ts with
  | nil => rfl
  | cons t ts ih => simp [datumItems?, datum?, Json.text, ih]

theorem datum?_texts (room : Nat) (ts : List Text) :
    datum? (room + 1) (list (ts.map Json.text)) = some (.list (ts.map .text)) := by
  rw [datum?, datumItems?_texts, Option.map_some]

/-- Every member of an object is a field. -/
theorem fields?_object (keys : List Text) (members : List (Text × Json)) :
    (Json.object members).fields? keys = some (members.map fun m => (m.1, m.2.field)) := by
  rw [Json.object, fields?]
  induction members with
  | nil => rfl
  | cons m members ih => simp only [List.map_cons, List.mapM_cons, ih]; rfl

/-- The values that members give to a key, in order. -/
def given (members : List (Text × Json)) (key : Text) : List Json :=
  (members.filter (·.1 == key)).map (·.2)

/-- Among members with different keys each gives its key the only value. -/
theorem given_of_mem {members : List (Text × Json)} (distinct : (members.map (·.1)).Nodup)
    {m : Text × Json} (member : m ∈ members) : given members m.1 = [m.2] := by
  have alone : (members.filter (·.1 == m.1)).Nodup := (List.Nodup.of_map _ distinct).filter _
  have one : (members.filter (·.1 == m.1)).Perm [m] := by
    refine (List.perm_ext_iff_of_nodup alone (List.nodup_singleton m)).mpr fun other => ?_
    rw [List.mem_filter, List.mem_singleton, beq_iff_eq]
    constructor
    · rintro ⟨among, same⟩
      exact List.inj_on_of_nodup_map distinct among member same
    · rintro rfl
      exact ⟨member, rfl⟩
  rw [given, one.eq_singleton, List.map_singleton]

end Json

theorem Datum.mapM_text? (ts : List Text) : (ts.map Datum.text).mapM Datum.text? = some ts := by
  induction ts with
  | nil => rfl
  | cons t ts ih => simp [List.mapM_cons, ih, Datum.text?]

/-! ### Names, patterns and minifying -/

theorem Names.ofDatum?_toJson (room : Nat) (names : Names) :
    (names.toJson.datum? (room + 1)).bind Names.ofDatum? = some names := by
  cases names with
  | one name => rfl
  | many names =>
    rw [toJson, Json.datum?_texts, Option.bind_some, ofDatum?, Datum.mapM_text?, Option.map_some]

theorem MatchSpec.ofDatum?_toJson (room : Nat) (spec : MatchSpec) :
    (spec.toJson.datum? (room + 1)).bind MatchSpec.ofDatum? = some spec := by
  cases spec with
  | pattern p => rfl
  | list parts =>
    rw [toJson, Json.datum?_texts, Option.bind_some, ofDatum?, Datum.mapM_text?, Option.map_some]

theorem MinifySetting.ofDatum?_toJson (room : Nat) (setting : MinifySetting) :
    (setting.toJson.datum? (room + 1)).bind MinifySetting.ofDatum? = some setting := by
  cases setting with
  | enabled value => rfl
  | options o => rfl

theorem Names.toJson_plain (names : Names) : names.toJson.Plain := by
  cases names with
  | one name => exact .text name
  | many names => exact .texts names

theorem MatchSpec.toJson_plain (spec : MatchSpec) : spec.toJson.Plain := by
  cases spec with
  | pattern p => exact .text p
  | list parts => exact .texts parts

theorem MinifySetting.toJson_plain (setting : MinifySetting) : setting.toJson.Plain := by
  cases setting with
  | enabled value => exact .bool value
  | options o =>
    refine .object ?_
    simp only [List.forall_mem_cons]
    exact ⟨.bool _, .bool _, fun _ none => absurd none List.not_mem_nil⟩

/-! ### Fields -/

namespace Field

variable {α : Type} {read : Field → Option (Option α)} {write : α → Json}

/-- What is written is read back, and `null` is read as nothing. -/
structure ReadsBack (read : Field → Option (Option α)) (write : α → Json) : Prop where
  null : read Json.null.field = some none
  back (a : α) : read (write a).field = some (some a)

theorem ReadsBack.orNull (undone : ReadsBack read write) (a : Option α) :
    read (Json.orNull write a).field = some a := by
  cases a with
  | none => exact undone.null
  | some a => exact undone.back a

theorem readsBack_text : ReadsBack Field.text Json.text :=
  ⟨rfl, fun _ => rfl⟩

theorem readsBack_flag : ReadsBack Field.flag Json.bool :=
  ⟨rfl, fun _ => rfl⟩

theorem datum_of_ne_null {v : Json} (real : v ≠ .null) :
    v.field.datum = (v.datum? Json.innerRoom).map some := by
  cases v with
  | null => exact absurd rfl real
  | _ => rfl

theorem readsBack_via {read : Datum → Option α} (real : ∀ a, write a ≠ .null)
    (back : ∀ a, ((write a).datum? Json.innerRoom).bind read = some a) :
    ReadsBack (Field.via read) write := by
  refine ⟨rfl, fun a => ?_⟩
  obtain ⟨d, held, same⟩ := Option.bind_eq_some_iff.mp (back a)
  simp only [Field.via, datum_of_ne_null (real a), held, Option.map_some, Option.bind_eq_bind,
    Option.bind_some, same]

theorem readsBack_names : ReadsBack (Field.via Names.ofDatum?) Names.toJson := by
  refine readsBack_via (fun names => ?_) (Names.ofDatum?_toJson _)
  cases names <;> exact Json.noConfusion

theorem readsBack_matchSpec : ReadsBack (Field.via MatchSpec.ofDatum?) MatchSpec.toJson := by
  refine readsBack_via (fun spec => ?_) (MatchSpec.ofDatum?_toJson _)
  cases spec <;> exact Json.noConfusion

theorem readsBack_minify : ReadsBack (Field.via MinifySetting.ofDatum?) MinifySetting.toJson := by
  refine readsBack_via (fun setting => ?_) (MinifySetting.ofDatum?_toJson _)
  cases setting <;> exact Json.noConfusion

variable {members : List (Text × Json)} {key : String}

theorem pick_of_once {v : Json} (once : Json.given members key.toList = [v]) :
    Field.pick (members.map fun m => (m.1, m.2.field)) key read = read v.field := by
  obtain ⟨m, found, rfl⟩ := List.map_eq_singleton_iff.mp once
  simp only [Field.pick, List.filter_map, Function.comp_def, found, List.map_singleton]

theorem pick_of_none (none : Json.given members key.toList = []) :
    Field.pick (members.map fun m => (m.1, m.2.field)) key read = some .none := by
  have found := List.map_eq_nil_iff.mp none
  simp only [Field.pick, List.filter_map, Function.comp_def, found, List.map_nil]

/-- A key that is given what stands for a value has it, and one that may be given `null` need not be
given anything. -/
theorem ReadsBack.pick (undone : ReadsBack read write) {a : Option α}
    (given : Json.given members key.toList = [Json.orNull write a] ∨
      Json.orNull write a = .null ∧ Json.given members key.toList = []) :
    Field.pick (members.map fun m => (m.1, m.2.field)) key read = some a := by
  have back := undone.orNull a
  obtain once | ⟨absent, none⟩ := given
  · rw [pick_of_once once, back]
  · rw [absent, undone.null] at back
    rw [pick_of_none none, back]

end Field

/-! ### Manifests -/

namespace Manifest

/-- The members of the object that is written for a manifest. -/
def members (m : Manifest) : List (Text × Json) :=
  [("match".toList, Json.orNull MatchSpec.toJson m.matchSpec),
    ("basedir".toList, Json.orNull Json.text m.basedir),
    ("parsers".toList, Json.orNull Names.toJson m.parsers),
    ("parser".toList, Json.orNull Names.toJson m.parser),
    ("processors".toList, Json.orNull Names.toJson m.processors),
    ("processor".toList, Json.orNull Names.toJson m.processor),
    ("pre".toList, Json.orNull Names.toJson m.pre),
    ("post".toList, Json.orNull Names.toJson m.post),
    ("minify".toList, Json.orNull MinifySetting.toJson m.minify),
    ("sourcemap".toList, Json.orNull Json.bool m.sourcemap),
    ("live".toList, Json.orNull Json.text m.live),
    ("remedy".toList, Json.orNull Json.bool m.remedy),
    ("check_markup".toList, Json.orNull Json.bool m.checkMarkup)]

theorem toJson_eq (m : Manifest) : m.toJson = Json.object m.members :=
  rfl

theorem members_keys (m : Manifest) : m.members.map (·.1) = keys :=
  rfl

/-- Members that give each key of a manifest its value once, where a key that has `null` may be
given nothing. -/
def Conveyed (m : Manifest) (members : List (Text × Json)) : Prop :=
  ∀ kv ∈ m.members, Json.given members kv.1 = [kv.2] ∨ kv.2 = .null ∧ Json.given members kv.1 = []

theorem conveyed_members (m : Manifest) : m.Conveyed m.members := by
  have distinct : (m.members.map (·.1)).Nodup := by
    rw [members_keys]
    decide
  exact fun _ member => Or.inl (Json.given_of_mem distinct member)

theorem toJson_plain (m : Manifest) : m.toJson.Plain := by
  rw [toJson_eq]
  refine .object ?_
  have names (names : Option Names) := Json.Plain.orNull Names.toJson_plain names
  have texts (t : Option Text) := Json.Plain.orNull Json.Plain.text t
  have flags (b : Option Bool) := Json.Plain.orNull Json.Plain.bool b
  simp only [members, List.forall_mem_cons]
  exact ⟨.orNull MatchSpec.toJson_plain _, texts _, names _, names _, names _, names _, names _,
    names _, .orNull MinifySetting.toJson_plain _, flags _, texts _, flags _, flags _,
    fun _ none => absurd none List.not_mem_nil⟩

/-- An object is read as the manifest that its members convey. -/
theorem ofJson?_object {m : Manifest} {members : List (Text × Json)}
    (conveyed : m.Conveyed members) : ofJson? (Json.object members) = some m := by
  unfold Conveyed at conveyed
  simp only [Manifest.members, List.forall_mem_cons] at conveyed
  obtain ⟨matchSpec, basedir, parsers, parser, processors, processor, pre, post, minify, sourcemap,
    live, remedy, checkMarkup, -⟩ := conveyed
  rw [ofJson?, Json.fields?_object, Option.bind_eq_bind, Option.bind_some, ofFields?,
    Field.readsBack_matchSpec.pick matchSpec, Field.readsBack_text.pick basedir,
    Field.readsBack_names.pick parsers, Field.readsBack_names.pick parser,
    Field.readsBack_names.pick processors, Field.readsBack_names.pick processor,
    Field.readsBack_names.pick pre, Field.readsBack_names.pick post,
    Field.readsBack_minify.pick minify, Field.readsBack_flag.pick sourcemap,
    Field.readsBack_text.pick live, Field.readsBack_flag.pick remedy,
    Field.readsBack_flag.pick checkMarkup]
  rfl

theorem read?_toJson (m : Manifest) :
    (Json.read? m.toJson.render).bind ofJson? = some m := by
  rw [Json.read?_render m.toJson_plain, Option.bind_some, toJson_eq]
  exact ofJson?_object m.conveyed_members

/-- A manifest is read back from its text, with the value that each of its keys has, so that in
every directory it stands for the same configuration or is refused for the same reason. The same is
read from the text of any object that gives the keys the same values, whatever the order of its
members and whatever other members it has, and also if keys that have `null` are left out. -/
theorem encoding_faithful (m : Manifest) :
    (Json.read? m.toJson.render).bind ofJson? = some m ∧
    (∀ (σ : Type) (directory : Option Text),
      ((Json.read? m.toJson.render).bind ofJson?).map (FileConfig.ofManifest · directory) =
        some (FileConfig.ofManifest m directory : Except ConfigFault (FileConfig σ))) ∧
    ∀ t members, Json.read? t = some (Json.object members) → m.Conveyed members →
      (Json.read? t).bind ofJson? = some m := by
  refine ⟨m.read?_toJson, fun _ directory => ?_, fun t members held conveyed => ?_⟩
  · rw [m.read?_toJson, Option.map_some]
  · rw [held, Option.bind_some]
    exact ofJson?_object conveyed

/-- Keys in another order, most of them left out, one that no manifest has and an escape that need
not be: the list of one name stays a list, and the list without a pattern is still refused. -/
theorem encoding_faithful_shuffled :
    let t := ("\x7b \"pre\": [\"a\\/b\"], \"n\": [true], \"match\": [], \"post\": \"c\", " ++
      "\"live\": null\x7d").toList
    let m : Manifest :=
      { matchSpec := some (.list []), pre := some (.many ["a/b".toList]),
        post := some (.one "c".toList) }
    (Json.read? t).bind ofJson? = some m ∧
      ((Json.read? m.toJson.render).bind ofJson?).map (FileConfig.ofManifest · none) =
        some (.error .emptyMatchList : Except ConfigFault (FileConfig Unit)) := by
  intro t m
  obtain ⟨-, stands, conveyed⟩ := encoding_faithful m
  let members : List (Text × Json) :=
    [("pre".toList, .list [Json.text "a/b".toList]), ("n".toList, .list [.bool true]),
      ("match".toList, .list []), ("post".toList, Json.text "c".toList), ("live".toList, .null)]
  have held : Json.read? t = some (Json.object members) := by
    unfold t members
    cbv
  refine ⟨conveyed t members held ?_, stands Unit none⟩
  simp only [Conveyed, Manifest.members, List.forall_mem_cons]
  exact ⟨.inl rfl, .inr ⟨rfl, rfl⟩, .inr ⟨rfl, rfl⟩, .inr ⟨rfl, rfl⟩, .inr ⟨rfl, rfl⟩,
    .inr ⟨rfl, rfl⟩, .inl rfl, .inl rfl, .inr ⟨rfl, rfl⟩, .inr ⟨rfl, rfl⟩, .inl rfl,
    .inr ⟨rfl, rfl⟩, .inr ⟨rfl, rfl⟩, fun _ none => absurd none List.not_mem_nil⟩

end Manifest
end LiveMarkup
