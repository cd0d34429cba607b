import LiveMarkup.Proofs.Path.Ancestors
import LiveMarkup.Proofs.Path.Identity

/-!
The characters of paths. Cleaning and joining bring in no characters but slashes and dots.
-/

namespace LiveMarkup.Path

variable {P : Char → Prop} {p q base : Text} {cs : List Component}

/-- All characters of a text are of one kind. -/
def Within (P : Char → Prop) (t : Text) : Prop :=
  ∀ c ∈ t, P c

theorem Within.append {s t : Text} (hs : Within P s) (ht : Within P t) : Within P (s ++ t) := by
  intro c member
  rcases List.mem_append.mp member with front | behind
  · exact hs c front
  · exact ht c behind

theorem mem_of_mem_segments {s : Text} {c : Char} (piece : s ∈ segments p) (member : c ∈ s) :
    c ∈ p := by
  induction p generalizing s with
  | nil => rwa [List.mem_singleton.mp piece] at member
  | cons d p ih =>
    by_cases slash : d = '/'
    · rw [slash, segments_slash] at piece
      rcases List.mem_cons.mp piece with rfl | piece
      · cases member
      · exact List.mem_cons_of_mem d (ih piece member)
    · obtain ⟨first, more, rest⟩ := exists_segments p
      rw [segments_of_ne slash rest] at piece
      rw [rest] at ih
      rcases List.mem_cons.mp piece with rfl | piece
      · rcases List.mem_cons.mp member with rfl | member
        · exact List.mem_cons_self
        · exact List.mem_cons_of_mem d (ih List.mem_cons_self member)
      · exact List.mem_cons_of_mem d (ih (List.mem_cons_of_mem first piece) member)

theorem mem_of_mem_reduce {d : Component} (member : d ∈ reduce cs) : d ∈ cs := by
  have walked (visited : List Component) (c e : Component) (h : e ∈ walk visited c) :
      e = c ∨ e ∈ visited := by
    unfold walk at h
    split at h
    · exact Or.inr h
    · split at h
      · exact Or.inr (List.mem_cons_of_mem _ h)
      · exact Or.inr h
      · exact List.mem_cons.mp h
    · exact List.mem_cons.mp h
  have all (cs visited : List Component) (h : d ∈ cs.foldl walk visited) :
      d ∈ cs ∨ d ∈ visited := by
    induction cs generalizing visited with
    | nil => exact Or.inr h
    | cons c cs ih =>
      rcases ih (walk visited c) h with later | now
      · exact Or.inl (List.mem_cons_of_mem c later)
      · rcases walked visited c d now with rfl | before
        · exact Or.inl List.mem_cons_self
        · exact Or.inr before
  rcases all cs [] (List.mem_reverse.mp member) with among | none
  · exact among
  · cases none

theorem mem_of_mem_dropTail {r : Text} {c : Char} (member : c ∈ dropTail r) : c ∈ r := by
  fun_induction dropTail r with
  | case1 => exact member
  | case2 r _ ih => exact List.mem_cons_of_mem _ (ih member)
  | case3 r ih => exact List.mem_cons_of_mem _ (ih member)
  | case4 => exact member

theorem Within.parent? (hp : Within P p) (h : parent? p = some q) : Within P q := by
  unfold Path.parent? at h
  split at h
  · cases h
  · cases h
  · rename_i d r _ last
    cases h
    intro c member
    have behind :=
      (List.dropWhile_sublist _).subset (mem_of_mem_dropTail (List.mem_reverse.mp member))
    have inside : c ∈ dropTail p.reverse := last ▸ List.mem_cons_of_mem d behind
    exact hp c (List.mem_reverse.mp (mem_of_mem_dropTail inside))

section

variable (slash : P '/') (dot : P '.')
include slash

theorem Within.join (hbase : Within P base) (hp : Within P p) : Within P (join base p) := by
  unfold Path.join
  split
  · exact hp
  · split
    · exact hbase.append hp
    · refine hbase.append ?_
      intro c member
      rcases List.mem_cons.mp member with rfl | member
      · exact slash
      · exact hp c member

theorem within_assemble (h : ∀ d ∈ cs, Within P d.text) : Within P (assemble cs) := by
  have all (cs : List Component) (h : ∀ d ∈ cs, Within P d.text) (base : Text)
      (hbase : Within P base) : Within P (extend base cs) := by
    induction cs generalizing base with
    | nil => exact hbase
    | cons c cs ih =>
      exact ih (fun d hd => h d (List.mem_cons_of_mem c hd)) _
        (hbase.join slash (h c List.mem_cons_self))
  exact all cs h [] fun c member => absurd member List.not_mem_nil

include dot

theorem Within.components (hp : Within P p) : ∀ d ∈ components p, Within P d.text := by
  intro d member c letter
  rw [components_eq] at member
  rcases List.mem_append.mp member with first | step
  · unfold start at first
    split at first
    · rw [List.mem_singleton.mp first] at letter
      rw [List.mem_singleton.mp letter]
      exact slash
    · split at first
      · rw [List.mem_singleton.mp first] at letter
        rw [List.mem_singleton.mp letter]
        exact dot
      · cases first
  · obtain ⟨s, piece, stands⟩ := List.mem_filterMap.mp step
    rw [Component.text_of_ofSegment? stands] at letter
    exact hp c (mem_of_mem_segments piece letter)

theorem Within.clean (hp : Within P p) : Within P (clean p) :=
  within_assemble slash fun d member => hp.components slash dot d (mem_of_mem_reduce member)

theorem Within.absolutize (hbase : Within P base) (hp : Within P p) :
    Within P (absolutize base p) := by
  rw [absolutize_eq]
  exact (hbase.join slash hp).clean slash dot

theorem Within.relative (hq : Within P q) (p : Text) : Within P (relative p q) := by
  have down :
      ∀ d ∈ (dropCommon (Path.components (Path.clean p)) (Path.components (Path.clean q))).2,
        Within P d.text := by
    intro d member
    obtain ⟨common, -, split⟩ :=
      dropCommon_append (Path.components (Path.clean p)) (Path.components (Path.clean q))
    exact (hq.clean slash dot).components slash dot d (split ▸ List.mem_append_right common member)
  simp only [Path.relative]
  split
  · intro c member
    rw [List.mem_singleton.mp member]
    exact dot
  · refine within_assemble slash fun d member => ?_
    rcases List.mem_append.mp member with up | below
    · obtain ⟨e, -, rfl⟩ := List.mem_map.mp up
      intro c letter
      rcases List.mem_cons.mp letter with rfl | letter
      · exact dot
      · rw [List.mem_singleton.mp letter]
        exact dot
    · exact down d below

end

end LiveMarkup.Path
