import LiveMarkup.Live.Server
import LiveMarkup.Proofs.Handler.Calls
import LiveMarkup.Proofs.Handler.Create
import LiveMarkup.Proofs.Handler.Steady
import LiveMarkup.Proofs.ModuleText.Reading
import LiveMarkup.Proofs.Transform

/-!
What is built and what is sent. A module that was built while a server is attached listens under the
key of the changes that the server sends for its file, and holds the source that the server would
send.
-/

namespace LiveMarkup

variable {σ W : Type}

namespace Registry

/-- The registries of a session to which a server was attached, as long as nothing resets them. -/
inductive Attached (table : StageTable σ) (root : Text) (watch : σ) : Registry σ → Prop
  | attach (r : Registry σ) : Attached table root watch (r.attach watch)
  | serve {r : Registry σ} {request : Request σ} (attached : Attached table root watch r)
      (kept : request ≠ .reset) : Attached table root watch (r.serve table root request).2

variable {table : StageTable σ} {root : Text} {watch : σ}

theorem live_of_serve {r : Registry σ} (live : r.live = true) {request : Request σ}
    (kept : request ≠ .reset) : (r.serve table root request).2.live = true := by
  cases request with
  | reset => exact absurd rfl kept
  | addPre refs =>
    cases found : table.resolveAll root root refs <;> simp [serve, addPre, found, live]
  | addPost refs =>
    cases found : table.resolveAll root root refs <;> simp [serve, addPost, found, live]
  | enableLive => rfl
  | configure | settings | isLive | stages => exact live

theorem Attached.live {r : Registry σ} (attached : r.Attached table root watch) :
    r.live = true := by
  induction attached with
  | attach r => rfl
  | serve _ kept ih => exact live_of_serve ih kept

end Registry

namespace LiveServer

/-- The messages of a server go to a channel inside of the process. -/
structure InProcess (l : LiveServer σ W) (channel : W → Channel) : Prop where
  accepted : ∀ m w, (l.send m w).1 = .ok ()
  broadcast : ∀ m w, channel (l.send m w).2 = (channel w).broadcast m

variable {l : LiveServer σ W} {files : FileTree}

/-- What is done for a file that is found and can be read. -/
theorem notify_eq_run {file code : Text} {h : Handler σ}
    (made : Handler.create files l.session.root l.session.table file l.config = .ok (some h))
    (held : files.read (Path.absolutize l.session.root file) = .ok code) (w : W) :
    l.notify files file w = (do
      let out ← l.session.run h code
      l.send ⟨out.filename, out.src⟩
      return some ⟨out.filename, out.src⟩ : Run W (Option Change)) w := by
  have read : (Run.lift ((files.read (Path.absolutize l.session.root file)).mapError Failure.io) :
      Run W Text) w = (.ok code, w) := by
    rw [held]
    rfl
  unfold notify
  rw [Run.bind_ok (Session.handler_eq made w)]
  dsimp only
  rw [Run.bind_ok read]

theorem notify_eq {file code : Text} {h : Handler σ} {out : Context σ} {w before : W}
    (made : Handler.create files l.session.root l.session.table file l.config = .ok (some h))
    (held : files.read (Path.absolutize l.session.root file) = .ok code)
    (ran : l.session.run h code w = (.ok out, before))
    (accepted : ∀ m w, (l.send m w).1 = .ok ()) :
    let change : Change := ⟨out.filename, out.src⟩
    l.notify files file w = (.ok (some change), (l.send change before).2) := by
  intro change
  have sent : l.send change before = (.ok (), (l.send change before).2) :=
    Prod.ext (accepted change before) rfl
  rw [notify_eq_run made held, Run.bind_ok ran, Run.bind_ok sent]
  rfl

/-- A change comes of a run that answered. -/
theorem run_of_notify {file : Text} {change : Change} {w after : W}
    (sent : l.notify files file w = (.ok (some change), after)) :
    ∃ h code out left,
      Handler.create files l.session.root l.session.table file l.config = .ok (some h) ∧
      files.read (Path.absolutize l.session.root file) = .ok code ∧
      l.session.run h code w = (.ok out, left) ∧ change = ⟨out.filename, out.src⟩ := by
  unfold notify at sent
  obtain ⟨found, w₁, asked, sent⟩ := Run.of_bind_ok sent
  obtain ⟨made, rfl⟩ := Prod.mk.inj asked
  cases found with
  | none => cases sent
  | some h =>
    obtain ⟨code, w₂, read, sent⟩ := Run.of_bind_ok sent
    obtain ⟨out, left, ran, sent⟩ := Run.of_bind_ok sent
    obtain ⟨-, w₄, -, sent⟩ := Run.of_bind_ok sent
    cases sent
    cases held : files.read (Path.absolutize l.session.root file) with
    | error fault =>
      rw [held] at read
      cases read
    | ok code' =>
      rw [held] at read
      cases read
      exact ⟨h, code, out, left, made, rfl, ran, rfl⟩

theorem uid_of_notify {file : Text} {change : Change} {w after : W}
    (sent : l.notify files file w = (.ok (some change), after)) :
    change.uid = Path.identity l.session.root (Path.absolutize l.session.root file) := by
  obtain ⟨h, code, out, left, made, -, ran, rfl⟩ := run_of_notify sent
  rw [Session.context_of_run ran]
  exact Handler.filename_of_create made

/-- What is built from one spelling of a path agrees with what is sent for another: the module holds
the source and listens under the key of the change that is sent from then on, and no later change of
the file goes under another key. -/
theorem notify_of_built {channel : W → Channel} {paths : ModulePaths} {watch : σ}
    {p q code text : Text} {w w' : W}
    (attached : (l.session.registry w).Attached l.session.table l.session.root watch)
    (inProcess : l.InProcess channel)
    (steady : ∀ h,
      Handler.create files l.session.root l.session.table p l.config = .ok (some h) →
        l.session.Steady h (l.session.registry w))
    (same : Path.absolutize l.session.root p = Path.absolutize l.session.root q)
    (held : files.read (Path.absolutize l.session.root p) = .ok code)
    (built : l.session.transform files p code l.config paths w = (.ok (.built text), w')) :
    l.session.registry w' = l.session.registry w ∧
      ∃ m s, ModuleText.read? text = some m ∧ m.subscription = some s ∧
        (∀ before, l.session.registry before = l.session.registry w → ∃ h change after,
          Handler.create files l.session.root l.session.table q l.config = .ok (some h) ∧
          l.notify files q before = (.ok (some change), after) ∧
          channel after = (channel (l.session.run h code before).2).broadcast change ∧
          s.key = change.key ∧ m.src = change.src) ∧
        ∀ later before change after, l.notify later q before = (.ok (some change), after) →
          s.key = change.key := by
  obtain ⟨h, out, made, ran, rfl⟩ := Session.transform_built built
  obtain ⟨kept, again⟩ := (steady h made).run code
  rw [ran] at kept again
  have live : (l.session.registry w').live = true := by
    rw [kept]
    exact attached.live
  have name : out.filename = Path.identity l.session.root (Path.absolutize l.session.root q) := by
    rw [Session.context_of_run ran, ← same]
    exact Handler.filename_of_create made
  rw [live]
  refine ⟨kept, _, _, ModuleText.read?_render _, rfl, ?_, ?_⟩
  · intro before unchanged
    have made' : Handler.create files l.session.root l.session.table q l.config = .ok (some h) := by
      rw [← Handler.create_congr same]
      exact made
    have held' : files.read (Path.absolutize l.session.root q) = .ok code := by
      rw [← same]
      exact held
    have ran' : l.session.run h code before = (.ok out, (l.session.run h code before).2) :=
      Prod.ext (again before unchanged) rfl
    exact ⟨h, ⟨out.filename, out.src⟩, _, made', notify_eq made' held' ran' inProcess.accepted,
      inProcess.broadcast _ _, rfl, rfl⟩
  · intro later before change after sent
    have uid := uid_of_notify sent
    simp only [Change.key, name, uid]

end LiveServer

namespace Conduct

/-- A server whose channel is what the stages and the minifier keep. -/
def server (b : Conduct σ Channel) (config : Option (FileConfig σ)) :
    LiveServer σ (Record σ Channel) where
  session := b.session
  send m w := (.ok (), { w with kept := w.kept.broadcast m })
  config := config

theorem inProcess_server (b : Conduct σ Channel) (config : Option (FileConfig σ)) :
    (b.server config).InProcess Record.kept :=
  ⟨fun _ _ => rfl, fun _ _ => rfl⟩

theorem steady_still {V : Type} (root : Text) (table : StageTable σ) (name : σ → Text)
    (act : σ → Context σ → Except Text (Context σ))
    (shrink : MinifyOptions → Text → Except Text Text) (h : Handler σ) (r : Registry σ) :
    let b : Conduct σ V := still root table name act shrink
    b.session.Steady h r :=
  ⟨fun _ _ _ _ => ⟨rfl, fun _ => rfl⟩, fun _ _ _ => ⟨rfl, fun _ => rfl⟩⟩

end Conduct

/-- A page that is built under one spelling of its path and sent under another, with a processor
that marks it. -/
theorem LiveServer.notify_of_built_marked :
    let b : Conduct Bool Channel := .still "/p".toList {} (fun _ => "mark".toList)
      (fun marks ctx => .ok (if marks then ctx.withSrc (ctx.src ++ ['!']) else ctx))
      (fun _ src => .ok src)
    let l := b.server (some { matcher := some ⟨[], [], .empty⟩, processors := [.direct true] })
    let files : FileTree :=
      ⟨[(["p".toList], .directory), (["p".toList, "a.html".toList], .file "<p>".toList)]⟩
    let w : Record Bool Channel := ⟨Registry.attach false {}, { space := "s".toList }, []⟩
    ∃ text w' m s change after,
      l.session.transform files "a.html".toList "<p>".toList l.config {} w =
        (.ok (.built text), w') ∧
      ModuleText.read? text = some m ∧ m.subscription = some s ∧
      l.notify files "x/.././a.html".toList w' = (.ok (some change), after) ∧
      s.key = change.key ∧ m.src = change.src := by
  intro b l files w
  have built : ∃ text w', l.session.transform files "a.html".toList "<p>".toList l.config {} w =
      (.ok (.built text), w') := ⟨_, _, rfl⟩
  obtain ⟨text, w', built⟩ := built
  obtain ⟨kept, m, s, read, listens, now, -⟩ := LiveServer.notify_of_built (l := l)
    (.attach {}) (Conduct.inProcess_server b _) (fun h _ => Conduct.steady_still _ _ _ _ _ h _)
    (by decide : Path.absolutize "/p".toList "a.html".toList =
      Path.absolutize "/p".toList "x/.././a.html".toList) rfl built
  obtain ⟨h, change, after, -, sent, -, key, src⟩ := now w' kept
  exact ⟨text, w', m, s, change, after, built, read, listens, sent, key, src⟩

end LiveMarkup
