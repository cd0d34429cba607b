import LiveMarkup.Proofs.Json.Quoting

/-!
Written values and reading them back. The compact text of a value is read as this value, whatever
comes behind it, once the reader may nest its calls twice as deep as the text is long.
-/

namespace LiveMarkup.Json

/-- Values that have one spelling: their strings name texts, and there is no number in them. -/
inductive Plain : Json → Prop
  | null : Plain null
  | bool (value : Bool) : Plain (bool value)
  | text (t : Text) : Plain (text t)
  | list {items : List Json} (each : ∀ v ∈ items, Plain v) : Plain (list items)
  | record {members : List (Option Text × Json)} (named : ∀ m ∈ members, m.1.isSome)
      (each : ∀ m ∈ members, Plain m.2) : Plain (record members)

/-- A value is read where its text stands. -/
def Legible (v : Json) : Prop :=
  ∀ fuel rest, 2 * v.render.length ≤ fuel + 1 →
    readValue fuel (v.render ++ rest) = some (v, rest)

/-- The text of a value starts with no blank, and not with the end of a list. -/
theorem Plain.head {v : Json} (plain : v.Plain) :
    ∃ c t, v.render = c :: t ∧ isBlank c = false ∧ c ≠ ']' := by
  cases plain with
  | null => exact ⟨'n', _, rfl, by decide, by decide⟩
  | bool value =>
    cases value with
    | true => exact ⟨'t', _, rfl, by decide, by decide⟩
    | false => exact ⟨'f', _, rfl, by decide, by decide⟩
  | text t => exact ⟨'"', _, by rw [Json.text, render]; rfl, by decide, by decide⟩
  | list => exact ⟨'[', _, by rw [render], by decide, by decide⟩
  | record => exact ⟨'\x7b', _, by rw [render], by decide, by decide⟩

theorem Plain.skipBlanks_render {v : Json} (plain : v.Plain) (rest : Text) :
    skipBlanks (v.render ++ rest) = v.render ++ rest := by
  obtain ⟨c, t, written, mark, -⟩ := plain.head
  rw [written, List.cons_append, skipBlanks_cons mark]

/-- A value is legible if it is read once its first character was looked at. -/
theorem legible_of_step {v : Json} {c : Char} {t : Text} (written : v.render = c :: t)
    (step : ∀ fuel rest, 2 * t.length ≤ fuel →
      readValue (fuel + 1) (c :: (t ++ rest)) = some (v, rest)) : Legible v := by
  intro fuel rest enough
  rw [written, List.length_cons] at enough
  obtain ⟨fuel, rfl⟩ : ∃ n, fuel = n + 1 := ⟨fuel - 1, by omega⟩
  rw [written, List.cons_append]
  exact step fuel rest (by omega)

theorem legible_null : Legible null :=
  legible_of_step rfl fun _ _ _ => rfl

theorem legible_bool (value : Bool) : Legible (bool value) := by
  cases value with
  | true => exact legible_of_step rfl fun _ _ _ => rfl
  | false => exact legible_of_step rfl fun _ _ _ => rfl

theorem legible_text (t : Text) : Legible (text t) := by
  refine legible_of_step (render_text t) fun fuel rest _ => ?_
  rw [List.append_assoc, List.singleton_append, readValue, readString_escape]
  rfl

/-- The items of a list are read one by one. -/
theorem readItems_render {items : List Json} (filled : items ≠ []) (plain : ∀ v ∈ items, Plain v)
    (legible : ∀ v ∈ items, Legible v) (fuel : Nat)
    (enough : 2 * (renderItems items).length ≤ fuel) (rest : Text) :
    readItems fuel (renderItems items ++ rest) = some (items, rest) := by
  induction items generalizing fuel with
  | nil => exact absurd rfl filled
  | cons v items ih =>
    have first := legible v List.mem_cons_self
    have marked := (plain v List.mem_cons_self).skipBlanks_render
    cases items with
    | nil =>
      simp only [renderItems, List.length_append, List.length_singleton] at enough
      obtain ⟨fuel, rfl⟩ : ∃ n, fuel = n + 1 := ⟨fuel - 1, by omega⟩
      have closed : skipBlanks (']' :: rest) = ']' :: rest := skipBlanks_cons (by decide) rest
      simp only [renderItems, List.append_assoc, List.singleton_append, readItems, marked,
        first fuel (']' :: rest) (by omega), Option.bind_eq_bind, Option.bind_some, closed]
    | cons v' items =>
      simp only [renderItems, List.length_append, List.length_cons] at enough
      obtain ⟨fuel, rfl⟩ : ∃ n, fuel = n + 1 := ⟨fuel - 1, by omega⟩
      have more := ih (List.cons_ne_nil v' items)
        (fun u member => plain u (List.mem_cons_of_mem v member))
        (fun u member => legible u (List.mem_cons_of_mem v member)) fuel (by omega)
      have parted : skipBlanks (',' :: (renderItems (v' :: items) ++ rest)) =
          ',' :: (renderItems (v' :: items) ++ rest) := skipBlanks_cons (by decide) _
      simp only [renderItems, List.append_assoc, List.cons_append, readItems, marked,
        first fuel _ (by omega), Option.bind_eq_bind, Option.bind_some, parted, more]

theorem renderItems_head {v : Json} (plain : v.Plain) (items : List Json) :
    ∃ c t, renderItems (v :: items) = c :: t ∧ isBlank c = false ∧ c ≠ ']' := by
  obtain ⟨c, t, written, mark, inner⟩ := plain.head
  cases items with
  | nil => exact ⟨c, t ++ [']'], by rw [renderItems, written]; rfl, mark, inner⟩
  | cons v' items =>
    refine ⟨c, t ++ ',' :: renderItems (v' :: items), ?_, mark, inner⟩
    rw [renderItems.eq_3 v _ (List.cons_ne_nil v' items), written]
    rfl

theorem legible_list {items : List Json} (plain : ∀ v ∈ items, Plain v)
    (legible : ∀ v ∈ items, Legible v) : Legible (list items) := by
  refine legible_of_step (by rw [render]) fun fuel rest enough => ?_
  cases items with
  | nil => rfl
  | cons v items =>
    have read := readItems_render (List.cons_ne_nil v items) plain legible fuel enough rest
    obtain ⟨c, t, starts, mark, inner⟩ := renderItems_head (plain v List.mem_cons_self) items
    rw [starts, List.cons_append] at read ⊢
    rw [readValue_items fuel mark inner, read]
    rfl

/-- Up to the value of the first member the reader goes the same way in every object. -/
theorem readMembers_front {v : Json} (plain : v.Plain) (legible : v.Legible) {fuel : Nat}
    (enough : 2 * v.render.length ≤ fuel + 1) (key : Text) {c : Char} (mark : isBlank c = false)
    (t : Text) :
    readMembers (fuel + 1) ('"' :: (key.flatMap escape ++ '"' :: ':' :: (v.render ++ c :: t))) =
      match c :: t with
      | ',' :: rest => (readMembers fuel rest).bind fun (ms, rest) =>
          some ((some key, v) :: ms, rest)
      | '\x7d' :: rest => some ([(some key, v)], rest)
      | _ => none := by
  have opened (t : Text) : skipBlanks ('"' :: t) = '"' :: t := skipBlanks_cons (by decide) t
  have parted (t : Text) : skipBlanks (':' :: t) = ':' :: t := skipBlanks_cons (by decide) t
  simp only [readMembers, opened, readString_escape, Option.bind_eq_bind, Option.bind_some,
    parted, plain.skipBlanks_render, legible fuel (c :: t) enough, skipBlanks_cons mark]
  rfl

/-- The members of an object are read one by one. -/
theorem readMembers_render {members : List (Option Text × Json)} (filled : members ≠ [])
    (named : ∀ m ∈ members, m.1.isSome) (plain : ∀ m ∈ members, Plain m.2)
    (legible : ∀ m ∈ members, Legible m.2) (fuel : Nat)
    (enough : 2 * (renderMembers members).length ≤ fuel) (rest : Text) :
    readMembers fuel (renderMembers members ++ rest) = some (members, rest) := by
  induction members generalizing fuel with
  | nil => exact absurd rfl filled
  | cons m members ih =>
    obtain ⟨key?, v⟩ := m
    obtain ⟨key, rfl⟩ := Option.isSome_iff_exists.mp (named _ List.mem_cons_self)
    have first : v.Legible := legible _ List.mem_cons_self
    have firstPlain : v.Plain := plain _ List.mem_cons_self
    cases members with
    | nil =>
      have size := congrArg List.length (renderMembers_singleton key v [])
      simp only [List.append_nil, List.length_cons, List.length_append] at size
      obtain ⟨fuel, rfl⟩ : ∃ n, fuel = n + 1 := ⟨fuel - 1, by omega⟩
      rw [renderMembers_singleton, readMembers_front firstPlain first (by omega) key (by decide)]
      rfl
    | cons m members =>
      have size := congrArg List.length (renderMembers_cons key v m members [])
      simp only [List.append_nil, List.length_cons, List.length_append] at size
      obtain ⟨fuel, rfl⟩ : ∃ n, fuel = n + 1 := ⟨fuel - 1, by omega⟩
      have more := ih (List.cons_ne_nil m members)
        (fun m member => named m (List.mem_cons_of_mem _ member))
        (fun m member => plain m (List.mem_cons_of_mem _ member))
        (fun m member => legible m (List.mem_cons_of_mem _ member)) fuel (by omega)
      rw [renderMembers_cons, readMembers_front firstPlain first (by omega) key (by decide)]
      simp only [more, Option.bind_some]

/-- The rest of an object that is not empty starts with the quote of its first key. -/
theorem renderMembers_head (key : Text) (v : Json) (members : List (Option Text × Json)) :
    ∃ t, renderMembers ((some key, v) :: members) = '"' :: t := by
  cases members with
  | nil =>
    have starts := renderMembers_singleton key v []
    rw [List.append_nil] at starts
    exact ⟨_, starts⟩
  | cons m members =>
    have starts := renderMembers_cons key v m members []
    rw [List.append_nil] at starts
    exact ⟨_, starts⟩

theorem legible_record {members : List (Option Text × Json)} (named : ∀ m ∈ members, m.1.isSome)
    (plain : ∀ m ∈ members, Plain m.2) (legible : ∀ m ∈ members, Legible m.2) :
    Legible (record members) := by
  refine legible_of_step (by rw [render]) fun fuel rest enough => ?_
  cases members with
  | nil => rfl
  | cons m members =>
    have read := readMembers_render (List.cons_ne_nil m members) named plain legible fuel enough
      rest
    obtain ⟨key?, v⟩ := m
    obtain ⟨key, rfl⟩ := Option.isSome_iff_exists.mp (named _ List.mem_cons_self)
    obtain ⟨t, starts⟩ := renderMembers_head key v members
    rw [starts, List.cons_append] at read ⊢
    rw [readValue_members, read]
    rfl

theorem Plain.legible {v : Json} (plain : v.Plain) : v.Legible := by
  induction plain with
  | null => exact legible_null
  | bool value => exact legible_bool value
  | text t => exact legible_text t
  | list each ih => exact legible_list each ih
  | record named each ih => exact legible_record named each ih

/-- What is written is read back. -/
theorem read?_render {v : Json} (plain : v.Plain) : read? v.render = some v := by
  have whole := plain.legible (2 * v.render.length + 1) [] (by omega)
  have front := plain.skipBlanks_render []
  rw [List.append_nil] at whole front
  rw [read?, front, whole]
  rfl

end LiveMarkup.Json
