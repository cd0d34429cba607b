import LiveMarkup.Proofs.Handler.Create
import LiveMarkup.Proofs.Handler.Turns
import LiveMarkup.Transform

/-!
What stands behind a module that was built: a handler, a run without failure, and the text of what
came out. Beside this run, turning a file into a module changes nothing.
-/

namespace LiveMarkup.Session

variable {σ W : Type} {s : Session σ W} {h : Handler σ} {files : FileTree}
variable {given : Option (FileConfig σ)} {paths : ModulePaths}

theorem handler_eq {file : Text} {result : Except Failure (Option (Handler σ))}
    (made : Handler.create files s.root s.table file given = result) (w : W) :
    s.handler files file given w = (result, w) := by
  rw [← made]
  rfl

/-- A file is turned into a module alike, however its path is spelled. -/
theorem transform_congr {p q : Text}
    (same : Path.absolutize s.root p = Path.absolutize s.root q) (code : Text) :
    s.transform files p code given paths = s.transform files q code given paths := by
  unfold transform handler
  rw [Handler.create_congr same]

/-- What comes of a file whose handler is found. -/
theorem transform_of_made {file code : Text} {found : Option (Handler σ)}
    (made : Handler.create files s.root s.table file given = .ok found) (w : W) :
    (s.transform files file code given paths w).1 =
      match found with
      | none => .ok (.passed code)
      | some h =>
        if h.config.checkMarkup && ! Text.looksLikeMarkup code then .ok (.passed code)
        else
          match s.run h code w with
          | (.error e, _) => .error e
          | (.ok out, left) =>
            .ok (.built (ModuleText.ofSource s.root out.filename out.src (s.registry left).live
              paths).render) := by
  unfold transform
  rw [Run.bind_ok (handler_eq made w)]
  cases found with
  | none => rfl
  | some h =>
    dsimp only
    split
    · rfl
    · cases ran : s.run h code w with | mk result left =>
      cases result with
      | error e => rw [Run.bind_error ran]
      | ok out =>
        rw [Run.bind_ok ran]
        rfl

theorem transform_built {file code text : Text} {w w' : W}
    (built : s.transform files file code given paths w = (.ok (.built text), w')) :
    ∃ h out, Handler.create files s.root s.table file given = .ok (some h) ∧
      s.run h code w = (.ok out, w') ∧
      text =
        (ModuleText.ofSource s.root out.filename out.src (s.registry w').live paths).render := by
  unfold transform at built
  obtain ⟨found, w₁, asked, built⟩ := Run.of_bind_ok built
  obtain ⟨made, rfl⟩ := Prod.mk.inj asked
  cases found with
  | none => cases built
  | some h =>
    dsimp only at built
    split at built
    · cases built
    · obtain ⟨out, w₂, ran, built⟩ := Run.of_bind_ok built
      obtain ⟨registry, w₃, read, built⟩ := Run.of_bind_ok built
      cases read
      cases built
      exact ⟨h, out, made, ran, rfl⟩

/-- Code that is taken leaves the world that its run leaves. -/
theorem world_of_taken {file code : Text}
    (made : Handler.create files s.root s.table file given = .ok (some h))
    (taken : (h.config.checkMarkup && ! Text.looksLikeMarkup code) = false) (w : W) :
    (s.transform files file code given paths w).2 = (s.run h code w).2 := by
  unfold transform
  rw [Run.bind_ok (handler_eq made w)]
  dsimp only
  rw [if_neg (by simp [taken])]
  cases ran : s.run h code w with | mk result left =>
  cases result with
  | error e => rw [Run.bind_error ran]
  | ok out =>
    rw [Run.bind_ok ran]
    rfl

/-- Code that is not taken changes nothing. -/
theorem world_of_untaken {file code : Text}
    (untaken : ∀ h, Handler.create files s.root s.table file given = .ok (some h) →
      (h.config.checkMarkup && ! Text.looksLikeMarkup code) = true) (w : W) :
    (s.transform files file code given paths w).2 = w := by
  unfold transform
  cases made : Handler.create files s.root s.table file given with
  | error e =>
    rw [Run.bind_error (handler_eq made w)]
  | ok found =>
    rw [Run.bind_ok (handler_eq made w)]
    cases found with
    | none => rfl
    | some h =>
      dsimp only
      rw [if_pos (untaken h made)]
      rfl

end LiveMarkup.Session
