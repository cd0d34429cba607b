import LiveMarkup.Proofs.ModuleText.Reading

/-!
Modules of processed files. The text of a module tells what it was made of and nothing else can have
the same text, and it is one line, or two when it follows the changes of its file.
-/

namespace LiveMarkup

namespace Json

theorem hexDigit_ne_newline : ∀ n, n < 16 → hexDigit n ≠ '\n' := by decide

theorem newline_not_mem_escape (c : Char) : '\n' ∉ escape c := by
  obtain ⟨e, written, -, short⟩ | ⟨low, written⟩ | ⟨high, -, -, written⟩ := escape_cases c
  · have printed : e ≠ '\n' := by
      rintro rfl
      cases short
    simp [written, printed.symm]
  · have first := hexDigit_ne_newline (c.toNat / 16) (by omega)
    have second := hexDigit_ne_newline (c.toNat % 16) (by omega)
    simp [written, first.symm, second.symm]
  · have printed : c ≠ '\n' := by
      rintro rfl
      exact absurd high (by decide)
    simp [written, printed.symm]

theorem newline_not_mem_quote (t : Text) : '\n' ∉ quote t := by
  have inside : '\n' ∉ t.flatMap escape := by
    intro member
    obtain ⟨c, -, member⟩ := List.mem_flatMap.mp member
    exact newline_not_mem_escape c member
  simp [quote, inside]

end Json

theorem Change.keyOf_inj {a b : Text} : Change.keyOf a = Change.keyOf b ↔ a = b := by
  unfold Change.keyOf
  exact List.append_right_inj _

namespace ModuleText

theorem render_inj {a b : ModuleText} : a.render = b.render ↔ a = b := by
  constructor
  · intro same
    have read := read?_render a
    rw [same, read?_render] at read
    exact (Option.some.inj read).symm
  · rintro rfl
    rfl

/-- A module that follows no changes is one line. -/
theorem newline_not_mem_render {m : ModuleText} (still : m.subscription = none) :
    '\n' ∉ m.render := by
  have opening : '\n' ∉ "module.exports = (require(".toList := by decide
  have middle : '\n' ∉ "))(".toList := by decide
  have closing : '\n' ∉ ");".toList := by decide
  have runtime := Json.newline_not_mem_quote m.runtime
  have src := Json.newline_not_mem_quote m.src
  unfold render
  rw [still, Option.map_none, Option.getD_none, List.append_nil]
  simp only [List.mem_append, not_or]
  exact ⟨⟨⟨⟨opening, runtime⟩, middle⟩, src⟩, closing⟩

/-- A subscription is a line of its own. -/
theorem renderSubscription_eq_line (s : Subscription) :
    ∃ line, '\n' ∉ line ∧ renderSubscription s = '\n' :: line := by
  have opening : "\nrequire(".toList = '\n' :: "require(".toList := by decide
  have first : '\n' ∉ "require(".toList := by decide
  have middle : '\n' ∉ ").on(".toList := by decide
  have closing : '\n' ∉ ", function(src) \x7b module.exports.update(src)\x7d)".toList := by decide
  have client := Json.newline_not_mem_quote s.client
  have key := Json.newline_not_mem_quote s.key
  refine ⟨"require(".toList ++ Json.quote s.client ++ ").on(".toList ++ Json.quote s.key ++
    ", function(src) \x7b module.exports.update(src)\x7d)".toList, ?_, ?_⟩
  · simp only [List.mem_append, not_or]
    exact ⟨⟨⟨⟨first, client⟩, middle⟩, key⟩, closing⟩
  · unfold renderSubscription
    rw [opening]
    simp only [List.cons_append]

/-- The subscription comes behind what the module would be without it. -/
theorem render_some (runtime src : Text) (s : Subscription) :
    render ⟨runtime, src, some s⟩ = render ⟨runtime, src, none⟩ ++ renderSubscription s := by
  unfold render
  rw [Option.map_some, Option.getD_some, Option.map_none, Option.getD_none, List.append_nil]

/-- The text of the module of a file is read as what it was made of, so two texts are the same only
if all of that is. A module that follows no changes is one line, and the subscription of one that
does is a second line. -/
theorem emission_faithful :
    (∀ root filename src live paths,
      read? (ofSource root filename src live paths).render =
        some
          { runtime := requirePath root filename paths.runtime
            src := src
            subscription :=
              if live then
                some ⟨requirePath root filename paths.liveClient, "change:".toList ++ filename⟩
              else none }) ∧
    (∀ root filename src live paths root' filename' src' live' paths',
      (ofSource root filename src live paths).render =
          (ofSource root' filename' src' live' paths').render ↔
        requirePath root filename paths.runtime = requirePath root' filename' paths'.runtime ∧
          src = src' ∧ live = live' ∧
          (live = true →
            requirePath root filename paths.liveClient =
              requirePath root' filename' paths'.liveClient ∧ filename = filename')) ∧
    ∀ root filename src paths,
      '\n' ∉ (ofSource root filename src false paths).render ∧
      ∃ line, '\n' ∉ line ∧
        (ofSource root filename src true paths).render =
          (ofSource root filename src false paths).render ++ '\n' :: line := by
  refine ⟨?_, ?_, ?_⟩
  · intro root filename src live paths
    exact read?_render _
  · intro root filename src live paths root' filename' src' live' paths'
    rw [render_inj]
    cases live <;> cases live' <;> simp [ofSource, Change.keyOf_inj]
  · intro root filename src paths
    refine ⟨newline_not_mem_render rfl, ?_⟩
    obtain ⟨line, single, written⟩ := renderSubscription_eq_line
      ⟨requirePath root filename paths.liveClient, Change.keyOf filename⟩
    refine ⟨line, single, ?_⟩
    unfold ofSource
    rw [if_pos rfl, if_neg Bool.false_ne_true, render_some, written]

end ModuleText
end LiveMarkup
