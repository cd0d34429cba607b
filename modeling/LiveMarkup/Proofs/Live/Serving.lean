import LiveMarkup.Proofs.Handler.Inherited
import LiveMarkup.Proofs.Live.Agreement
import LiveMarkup.Proofs.Path.Identity

/-!
What a server sends while it takes in changed files. Each file has its turn in the world that the
turns before it left, whether they came to anything or not.

* `LiveServer.Idle`, `idle_iff`: why no stage is called for a file;
* `LiveServer.Serves`: what is sent for a list of files;
* `LiveServer.serve_sends`: a server sends exactly that, and of what was before only the registry
  matters.
-/

namespace LiveMarkup.LiveServer

variable {σ W : Type} {l : LiveServer σ W} {files : FileTree} {channel : W → Channel}

/-- A changed file has a handler and can be read. -/
structure Takes (l : LiveServer σ W) (files : FileTree) (file : Text) (h : Handler σ)
    (code : Text) : Prop where
  made : Handler.create files l.session.root l.session.table file l.config = .ok (some h)
  held : files.read (Path.absolutize l.session.root file) = .ok code

/-- Why no stage is called for a changed file. -/
inductive Idle (l : LiveServer σ W) (files : FileTree) (file : Text) : Prop
  | unreachable {fault : FileFault}
      (fails : files.holds (Path.absolutize l.session.root file) = .error fault)
  | missing (none : files.holds (Path.absolutize l.session.root file) = .ok false)
  | misconfigured {e : Failure}
      (fails : Handler.inForce files (Path.absolutize l.session.root file) l.config = .error e)
  | unselected {config : FileConfig σ}
      (found : Handler.inForce files (Path.absolutize l.session.root file) l.config = .ok config)
      (rejects : (config.matcher.getD Matcher.markup).accepts
        (Path.identity l.session.root file) = false)
  | unresolved {config : FileConfig σ} {refs : List (StageRef σ)} {e : Failure}
      (found : Handler.inForce files (Path.absolutize l.session.root file) l.config = .ok config)
      (named : refs = config.parsers ∨ refs = config.processors)
      (fails : l.session.table.resolveAll l.session.root
        (Handler.basedirOf l.session.root config) refs = .error e)
  | unreadable {fault : FileFault}
      (fails : files.read (Path.absolutize l.session.root file) = .error fault)

/-- What is sent for some changed files, one after the other. The identity of a file is sent with
the source that its run comes to; where the run fails nothing is sent, and the next file finds what
the stages of this run left. -/
inductive Serves (l : LiveServer σ W) (files : FileTree) : List Text → W → List Change → W → Prop
  | done (w : W) : Serves l files [] w [] w
  | idle {file : Text} {rest : List Text} {w w' : W} {sent : List Change}
      (idle : l.Idle files file) (more : Serves l files rest w sent w') :
      Serves l files (file :: rest) w sent w'
  | failed {file code : Text} {rest : List Text} {h : Handler σ} {e : Failure} {w left w' : W}
      {sent : List Change} (takes : l.Takes files file h code)
      (ran : l.session.run h code w = (.error e, left))
      (more : Serves l files rest left sent w') : Serves l files (file :: rest) w sent w'
  | sent {file code : Text} {rest : List Text} {h : Handler σ} {out : Context σ} {w left w' : W}
      {sent : List Change} (takes : l.Takes files file h code)
      (ran : l.session.run h code w = (.ok out, left))
      (more : Serves l files rest
        (l.send ⟨Path.identity l.session.root file, out.src⟩ left).2 sent w') :
      Serves l files (file :: rest) w
        (⟨Path.identity l.session.root file, out.src⟩ :: sent) w'

theorem not_takes_of_idle (absolute : Path.isAbsolute l.session.root = true) {file code : Text}
    {h : Handler σ} (idle : l.Idle files file) : ¬ l.Takes files file h code := by
  rintro ⟨made, held⟩
  obtain ⟨holds, config, found, handler⟩ := Handler.create_eq_some.mp ⟨h, made⟩
  obtain ⟨selects, ⟨parsers, hparsers⟩, processors, hprocessors⟩ :=
    Handler.ofConfig_eq_some.mp handler
  cases idle with
  | unreachable fails =>
    rw [fails] at holds
    cases holds
  | missing none =>
    rw [none] at holds
    cases holds
  | misconfigured fails =>
    rw [fails] at found
    cases found
  | unselected found' rejects =>
    rw [found'] at found
    cases found
    rw [Path.identity_absolutize absolute, rejects] at selects
    cases selects
  | unresolved found' named fails =>
    rw [found'] at found
    cases found
    obtain rfl | rfl := named
    · rw [fails] at hparsers
      cases hparsers
    · rw [fails] at hprocessors
      cases hprocessors
  | unreadable fails =>
    rw [fails] at held
    cases held

/-- A file that is found and selected, and whose stages are found, has a handler. -/
theorem exists_handler (absolute : Path.isAbsolute l.session.root = true) {file : Text}
    {config : FileConfig σ} {parsers processors : List σ}
    (holds : files.holds (Path.absolutize l.session.root file) = .ok true)
    (found : Handler.inForce files (Path.absolutize l.session.root file) l.config = .ok config)
    (selects : (config.matcher.getD Matcher.markup).accepts
      (Path.identity l.session.root file) = true)
    (parsed : l.session.table.resolveAll l.session.root
      (Handler.basedirOf l.session.root config) config.parsers = .ok parsers)
    (processed : l.session.table.resolveAll l.session.root
      (Handler.basedirOf l.session.root config) config.processors = .ok processors) :
    ∃ h, Handler.create files l.session.root l.session.table file l.config = .ok (some h) := by
  rw [← Path.identity_absolutize absolute] at selects
  have handler := Handler.ofConfig_eq_some.mpr ⟨selects, ⟨parsers, parsed⟩, processors, processed⟩
  exact Handler.create_eq_some.mpr ⟨holds, config, found, handler⟩

/-- The questions are asked in the order in which a handler is made; each of them may be the reason
why no stage is called. -/
theorem idle_or_takes (files : FileTree) (absolute : Path.isAbsolute l.session.root = true)
    (file : Text) :
    l.Idle files file ∨ ∃ h code, l.Takes files file h code := by
  cases holds : files.holds (Path.absolutize l.session.root file) with
  | error fault => exact Or.inl (.unreachable holds)
  | ok present =>
  cases present with
  | false => exact Or.inl (.missing holds)
  | true =>
  cases found : Handler.inForce files (Path.absolutize l.session.root file) l.config with
  | error e => exact Or.inl (.misconfigured found)
  | ok config =>
  cases selects : (config.matcher.getD Matcher.markup).accepts
      (Path.identity l.session.root file) with
  | false => exact Or.inl (.unselected found selects)
  | true =>
  cases parsed : l.session.table.resolveAll l.session.root
      (Handler.basedirOf l.session.root config) config.parsers with
  | error e => exact Or.inl (.unresolved found (Or.inl rfl) parsed)
  | ok parsers =>
  cases processed : l.session.table.resolveAll l.session.root
      (Handler.basedirOf l.session.root config) config.processors with
  | error e => exact Or.inl (.unresolved found (Or.inr rfl) processed)
  | ok processors =>
  cases held : files.read (Path.absolutize l.session.root file) with
  | error fault => exact Or.inl (.unreadable held)
  | ok code =>
    obtain ⟨h, made⟩ := exists_handler absolute holds found selects parsed processed
    exact Or.inr ⟨h, code, made, held⟩

/-- No stage is called for a file if and only if it has no handler or cannot be read. -/
theorem idle_iff (absolute : Path.isAbsolute l.session.root = true) (file : Text) :
    l.Idle files file ↔ ∀ h code, ¬ l.Takes files file h code := by
  constructor
  · exact fun idle h code => not_takes_of_idle absolute idle
  · intro untaken
    obtain idle | ⟨h, code, takes⟩ := idle_or_takes files absolute file
    · exact idle
    · exact absurd takes (untaken h code)

theorem filename_of_takes (absolute : Path.isAbsolute l.session.root = true) {file code : Text}
    {h : Handler σ} (takes : l.Takes files file h code) :
    h.filename = Path.identity l.session.root file := by
  rw [Handler.filename_of_create takes.made, Path.identity_absolutize absolute]

/-! ### One file -/

/-- A file for which no stage is called changes nothing. -/
theorem notify_of_untaken {file : Text} (untaken : ∀ h code, ¬ l.Takes files file h code) (w : W) :
    (l.notify files file w).2 = w := by
  unfold notify
  cases made : Handler.create files l.session.root l.session.table file l.config with
  | error e =>
    rw [Run.bind_error (Session.handler_eq made w)]
  | ok found =>
    rw [Run.bind_ok (Session.handler_eq made w)]
    cases found with
    | none => rfl
    | some h =>
      cases held : files.read (Path.absolutize l.session.root file) with
      | error fault =>
        rfl
      | ok code => exact absurd ⟨made, held⟩ (untaken h code)

/-- A file whose run fails leaves what its stages did. -/
theorem notify_of_failed {file code : Text} {h : Handler σ} {e : Failure} {w left : W}
    (takes : l.Takes files file h code) (ran : l.session.run h code w = (.error e, left)) :
    (l.notify files file w).2 = left := by
  rw [notify_eq_run takes.made takes.held, Run.bind_error ran]

/-- A file whose run succeeds is sent, under its identity. -/
theorem notify_of_sent (absolute : Path.isAbsolute l.session.root = true) {file code : Text}
    {h : Handler σ} {out : Context σ} {w left : W} (accepted : ∀ m w, (l.send m w).1 = .ok ())
    (takes : l.Takes files file h code) (ran : l.session.run h code w = (.ok out, left)) :
    (l.notify files file w).2 =
      (l.send ⟨Path.identity l.session.root file, out.src⟩ left).2 := by
  have name : out.filename = Path.identity l.session.root file := by
    rw [Session.context_of_run ran]
    exact filename_of_takes absolute takes
  rw [notify_eq takes.made takes.held ran accepted, name]

/-! ### One file after the other -/

theorem serve_cons (file : Text) (rest : List Text) (w : W) :
    l.serve files (file :: rest) w = l.serve files rest (l.notify files file w).2 :=
  rfl

theorem serves_serve (files : FileTree) (absolute : Path.isAbsolute l.session.root = true)
    (accepted : ∀ m w, (l.send m w).1 = .ok ()) (changed : List Text) (w : W) :
    ∃ sent, l.Serves files changed w sent (l.serve files changed w) := by
  induction changed generalizing w with
  | nil => exact ⟨[], .done w⟩
  | cons file rest ih =>
    obtain ⟨sent, more⟩ := ih (l.notify files file w).2
    rw [serve_cons]
    obtain idle | ⟨h, code, takes⟩ := idle_or_takes files absolute file
    · rw [notify_of_untaken fun h code => not_takes_of_idle absolute idle] at more ⊢
      exact ⟨sent, .idle idle more⟩
    · cases ran : l.session.run h code w with | mk result left =>
      cases result with
      | error e =>
        rw [notify_of_failed takes ran] at more ⊢
        exact ⟨sent, .failed takes ran more⟩
      | ok out =>
        rw [notify_of_sent absolute accepted takes ran] at more ⊢
        exact ⟨_, .sent takes ran more⟩

theorem Takes.unique {file code code' : Text} {h h' : Handler σ}
    (takes : l.Takes files file h code) (takes' : l.Takes files file h' code') :
    h' = h ∧ code' = code := by
  have made := takes.made
  have held := takes.held
  rw [takes'.made] at made
  rw [takes'.held] at held
  cases made
  cases held
  exact ⟨rfl, rfl⟩

namespace Serves

variable {changed : List Text} {sent : List Change} {w w' : W}

/-- There is one way to serve. -/
theorem unique (absolute : Path.isAbsolute l.session.root = true)
    (serves : l.Serves files changed w sent w') {sent' : List Change} {w'' : W}
    (serves' : l.Serves files changed w sent' w'') : sent' = sent ∧ w'' = w' := by
  induction serves generalizing sent' with
  | done =>
    cases serves'
    exact ⟨rfl, rfl⟩
  | idle idle _ ih =>
    have untaken := (idle_iff absolute _).mp idle
    cases serves' with
    | idle _ more => exact ih more
    | failed takes _ _ => exact absurd takes (untaken _ _)
    | sent takes _ _ => exact absurd takes (untaken _ _)
  | failed takes ran _ ih =>
    cases serves' with
    | idle idle _ => exact absurd takes ((idle_iff absolute _).mp idle _ _)
    | failed takes' ran' more =>
      obtain ⟨rfl, rfl⟩ := takes.unique takes'
      rw [ran] at ran'
      cases ran'
      exact ih more
    | sent takes' ran' _ =>
      obtain ⟨rfl, rfl⟩ := takes.unique takes'
      rw [ran] at ran'
      cases ran'
  | sent takes ran _ ih =>
    cases serves' with
    | idle idle _ => exact absurd takes ((idle_iff absolute _).mp idle _ _)
    | failed takes' ran' _ =>
      obtain ⟨rfl, rfl⟩ := takes.unique takes'
      rw [ran] at ran'
      cases ran'
    | sent takes' ran' more =>
      obtain ⟨rfl, rfl⟩ := takes.unique takes'
      rw [ran] at ran'
      cases ran'
      obtain ⟨rfl, rfl⟩ := ih more
      exact ⟨rfl, rfl⟩

/-- What is sent arrives in the channel, and nothing else does. -/
theorem channel_eq (broadcast : ∀ m w, channel (l.send m w).2 = (channel w).broadcast m)
    (apart : l.session.Apart channel) (serves : l.Serves files changed w sent w') :
    channel w' = sent.foldl Channel.broadcast (channel w) := by
  induction serves with
  | done => rfl
  | idle _ _ ih => exact ih
  | failed _ ran _ ih => rw [ih, apart.of_run ran]
  | sent _ ran _ ih =>
    rw [ih, broadcast, apart.of_run ran]
    rfl

/-- In a world with the same registry the same is sent. -/
theorem aligned (governed : l.session.Governed)
    (unseen : ∀ m w, l.session.registry (l.send m w).2 = l.session.registry w)
    (serves : l.Serves files changed w sent w') {v : W}
    (same : l.session.registry v = l.session.registry w) :
    ∃ v', l.Serves files changed v sent v' := by
  induction serves generalizing v with
  | done => exact ⟨v, .done v⟩
  | idle idle _ ih =>
    obtain ⟨v', more⟩ := ih same
    exact ⟨v', .idle idle more⟩
  | failed takes ran _ ih =>
    obtain ⟨left', ran', registry⟩ := governed.of_run ran same
    obtain ⟨v', more⟩ := ih registry
    exact ⟨v', .failed takes ran' more⟩
  | sent takes ran _ ih =>
    obtain ⟨left', ran', registry⟩ := governed.of_run ran same
    obtain ⟨v', more⟩ := ih ((unseen _ left').trans (registry.trans (unseen _ _).symm))
    exact ⟨v', .sent takes ran' more⟩

end Serves

/-- A server sends the identity of each changed file whose handler exists and whose read and run
succeed, with the source that the run comes to, in order and each once; a file that is unreachable,
missing, misconfigured, unselected or unreadable, or whose run fails, sends nothing. Of what a file
leaves to those after it, only the registry counts where the stages go by no more than that. -/
theorem serve_sends (files : FileTree) (absolute : Path.isAbsolute l.session.root = true)
    (inProcess : l.InProcess channel) (changed : List Text) (w : W) :
    (∀ file, l.Idle files file ↔ ∀ h code, ¬ l.Takes files file h code) ∧
      ∃ sent,
        (∀ sent' w', l.Serves files changed w sent' w' ↔
          sent' = sent ∧ w' = l.serve files changed w) ∧
        (l.session.Apart channel →
          channel (l.serve files changed w) = sent.foldl Channel.broadcast (channel w)) ∧
        (l.session.Governed →
          (∀ m w, l.session.registry (l.send m w).2 = l.session.registry w) →
          ∀ v, l.session.registry v = l.session.registry w →
            l.Serves files changed v sent (l.serve files changed v)) := by
  refine ⟨idle_iff absolute, ?_⟩
  obtain ⟨sent, serves⟩ := serves_serve files absolute inProcess.accepted changed w
  refine ⟨sent, fun sent' w' => ⟨serves.unique absolute, ?_⟩,
    fun apart => serves.channel_eq inProcess.broadcast apart, fun governed unseen v same => ?_⟩
  · rintro ⟨rfl, rfl⟩
    exact serves
  · obtain ⟨v', alike⟩ := serves.aligned governed unseen same
    obtain ⟨sent', serves'⟩ :=
      serves_serve files absolute inProcess.accepted changed v
    obtain ⟨rfl, rfl⟩ := serves'.unique absolute alike
    exact serves'

/-- A page is sent, one that is gone is passed over, one makes its stage ask for a mark in front of
all processors and fail, and then the first page is sent again, with the mark. -/
theorem serve_sends_marked :
    let act (marks : Bool) (ctx : Context Bool) : Except Text (Context Bool) :=
      if marks then .ok (ctx.withSrc (ctx.src ++ ['!']))
      else if ctx.src = "b".toList then .error "no".toList else .ok ctx
    let b : Conduct Bool Channel :=
      { root := "/p".toList
        table := {}
        name := fun _ => "stage".toList
        stage := fun marks ctx _ v =>
          ⟨if ctx.src = "b".toList then [.addPre [.direct true]] else [], act marks ctx, v⟩
        minifier := fun _ src _ v => ⟨[], .ok src, v⟩ }
    let config : FileConfig Bool :=
      { matcher := some ⟨[], [], .empty⟩, processors := [.direct false] }
    let l := b.server (some config)
    let files : FileTree :=
      ⟨[(["p".toList], .directory), (["p".toList, "a.html".toList], .file "a".toList),
        (["p".toList, "b.html".toList], .file "b".toList)]⟩
    let changed := ["a.html".toList, "gone.html".toList, "/p/b.html".toList, "x/.././a.html".toList]
    let w : Record Bool Channel := ⟨{}, { space := "s".toList }, []⟩
    let sent : List Change := [⟨"a.html".toList, "a".toList⟩, ⟨"a.html".toList, "a!".toList⟩]
    (l.serve files changed w).kept = sent.foldl Channel.broadcast w.kept ∧
      ∀ v, v.registry = w.registry → l.Serves files changed v sent (l.serve files changed v) := by
  intro act b config l files changed w sent
  have apart : l.session.Apart Record.kept := ⟨fun _ _ _ => rfl, fun _ _ _ => rfl⟩
  have governed : l.session.Governed := by
    refine ⟨fun stage ctx v v' same => ⟨rfl, ?_⟩, fun options src v v' same => ⟨rfl, same⟩⟩
    change b.serve v'.registry _ = b.serve v.registry _
    rw [show v'.registry = v.registry from same]
    rfl
  obtain ⟨-, sent', only, arrived, again⟩ :=
    serve_sends files (by decide : Path.isAbsolute l.session.root = true)
      (Conduct.inProcess_server b _) changed w
  let h (file : Text) : Handler Bool :=
    ⟨Handler.settle l.session.root config,
      Path.identity l.session.root (Path.absolutize l.session.root file), [], [false]⟩
  have first : l.Takes files "a.html".toList (h "a.html".toList) "a".toList := ⟨rfl, rfl⟩
  have gone : l.Idle files "gone.html".toList := .missing rfl
  have third : l.Takes files "/p/b.html".toList (h "/p/b.html".toList) "b".toList := ⟨rfl, rfl⟩
  have fourth : l.Takes files "x/.././a.html".toList (h "x/.././a.html".toList) "a".toList :=
    ⟨rfl, rfl⟩
  have serves : ∃ sent₁ w₁, l.Serves files changed w sent₁ w₁ ∧ sent₁ = sent := by
    refine ⟨_, _, .sent first rfl (.idle gone (.failed third rfl (.sent fourth rfl (.done _)))), ?_⟩
    decide +kernel
  obtain ⟨sent₁, w₁, serves, same⟩ := serves
  have known : sent = sent' := by
    rw [← same]
    exact ((only sent₁ w₁).mp serves).1
  rw [known]
  exact ⟨arrived apart, again governed fun _ _ => rfl⟩

end LiveMarkup.LiveServer
