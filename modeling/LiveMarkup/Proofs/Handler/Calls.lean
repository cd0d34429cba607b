import LiveMarkup.Proofs.Handler.Moments

/-!
The calls of a run whose stages ask for nothing: which stages are called, in which order and with
what, and how the run ends.
-/

namespace LiveMarkup

variable {σ V : Type}

/-- What is answered when stages and minifier are functions of what they are asked with. -/
def Asked.answer (act : σ → Context σ → Except Text (Context σ))
    (shrink : MinifyOptions → Text → Except Text Text) : Asked σ → Except Text Text
  | stage s ctx => (act s ctx).map Context.src
  | minifier options src => shrink options src

namespace Conduct

/-- Stages and a minifier that are functions of what they are asked with, and ask for nothing. -/
def still (root : Text) (table : StageTable σ) (name : σ → Text)
    (act : σ → Context σ → Except Text (Context σ))
    (shrink : MinifyOptions → Text → Except Text Text) : Conduct σ V where
  root := root
  table := table
  name := name
  stage s ctx _ v := ⟨[], act s ctx, v⟩
  minifier options src _ v := ⟨[], shrink options src, v⟩

section

variable {root : Text} {table : StageTable σ} {name : σ → Text}
variable {act : σ → Context σ → Except Text (Context σ)}
variable {shrink : MinifyOptions → Text → Except Text Text} {h : Handler σ}

theorem call_still (asked : Asked σ) (w : Record σ V) :
    (still root table name act shrink).call asked w =
      ⟨asked, w.registry, [], asked.answer act shrink⟩ := by
  cases asked <;> rfl

theorem of_mem_trail_still {ts : List (Turn σ)} {src : Text} {w : Record σ V} {c : Call σ}
    (member : c ∈ ((still root table name act shrink).trail h ts src w).calls) :
    c.requests = [] ∧ c.answer = c.asked.answer act shrink := by
  obtain ⟨w', made⟩ := call_of_mem_trail member
  rw [call_still] at made
  rw [made]
  exact ⟨rfl, rfl⟩

theorem after_eq_self {b : Conduct σ V} {calls : List (Call σ)}
    (quiet : ∀ c ∈ calls, c.requests = []) (r : Registry σ) : b.after r calls = r := by
  induction calls with
  | nil => rfl
  | cons c calls ih =>
    have first : c.requests = [] := quiet c List.mem_cons_self
    have step : b.after r (c :: calls) = b.after (b.serve r c.requests) calls := rfl
    rw [step, first]
    exact ih fun c' member => quiet c' (List.mem_cons_of_mem c member)

/-- Where nothing is asked of the registry, every phase finds what was there at the beginning. -/
theorem reached_still (ts : List (Turn σ)) (src : Text) (w : Record σ V) (r : Registry σ)
    (phase : Phase) :
    let b : Conduct σ V := still root table name act shrink
    b.reached r (b.trail h ts src w) phase = r := by
  apply after_eq_self
  intro c member
  obtain ⟨t, found, rfl⟩ := List.mem_map.mp member
  exact (of_mem_trail_still (List.mem_map_of_mem (List.mem_filter.mp found).1)).1

end

/-- A run calls the parsers until one does not answer the source that it got, and then the stages
before the processors, the processors, the stages after them and, if the settings say so, the
minifier, each with the source that came of the call before. It ends with the last answer, or where
a call is refused with the failure of this call. -/
theorem run_calls (root : Text) (table : StageTable σ) (name : σ → Text)
    (act : σ → Context σ → Except Text (Context σ))
    (shrink : MinifyOptions → Text → Except Text Text) (h : Handler σ) (src : Text)
    (r : Registry σ) :
    let b : Conduct σ Unit := still root table name act shrink
    let ran := b.session.run h src ⟨r, (), []⟩
    ∃ trail : Trail σ,
      let due := (trail.before .pre).turns ++ r.pre.map (.stage .pre) ++
        h.processors.map (.stage .perFile) ++ r.post.map (.stage .post) ++
        r.settings.minify.options?.toList.map .minifier
      ran.2.calls = trail.calls ∧
      (∀ c ∈ trail.calls, c.answer = c.asked.answer act shrink) ∧
      Offered h src h.parsers (trail.before .pre).calls ∧
      Follows name h src trail (ran.1.map Context.src) ∧
      trail.turns <+: due ∧
      ∀ ctx, ran.1 = .ok ctx → trail.turns = due ∧ ctx = h.context ctx.src := by
  intro b ran
  let w : Record σ Unit := ⟨r, (), []⟩
  let trail := b.trail h (b.session.due h src w) src w
  obtain ⟨calls, -, offered, follows, first, all⟩ := run_session (b := b) (h := h) src w
  have due : b.dueBy h r trail = (trail.before .pre).turns ++ r.pre.map (.stage .pre) ++
      h.processors.map (.stage .perFile) ++ r.post.map (.stage .post) ++
      r.settings.minify.options?.toList.map .minifier := by
    simp only [dueBy, trail, b, reached_still]
  refine ⟨trail, calls, fun c member => (of_mem_trail_still member).2, offered, follows, ?_, ?_⟩
  · rw [← due]
    exact first
  · intro ctx done
    rw [← due]
    exact all ctx done

end Conduct
end LiveMarkup
