import Cestos.Core.Locking
import Cestos.Core.Outcome
import Cestos.Core.Table

/-!
# Hierarchies

Each row names the row above it, or none. A row may be moved below another one if the walk up from
there does not come back to it. The walk reads one row at a time; what it has read it does not
read again, so at its end it may know rows as they no longer are.
-/

namespace Cestos.Core

variable {κ : Type}

/-- `b` is directly above `a`. -/
def Below (parent : κ → Option κ) (a b : κ) : Prop := parent a = some b

/-! ## Moving a row -/

section Move

variable {parent : κ → Option κ} {node : κ}

/-- A chain to a row that is above no other starts there. -/
theorem not_below_leaf (hleaf : ∀ a, parent a ≠ some node) {above : κ} (hne : above ≠ node) :
    ¬ Relation.ReflTransGen (Below parent) above node := by
  intro hchain
  rcases Relation.ReflTransGen.cases_tail hchain with heq | ⟨last, -, hlast⟩
  · exact hne heq.symm
  · exact hleaf last hlast

variable [DecidableEq κ]

/-- A row may be moved below a row that it is not above. -/
theorem Acyclic.move (h : Acyclic (Below parent)) {above : κ}
    (hopen : ¬ Relation.ReflTransGen (Below parent) above node) :
    Acyclic (Below (Function.update parent node (some above))) := by
  refine (h.insert hopen).mono fun a b hab => ?_
  by_cases ha : a = node
  · subst ha
    rw [Below, Function.update_self] at hab
    exact .inr ⟨rfl, (Option.some.inj hab).symm⟩
  · rw [Below, Function.update_of_ne ha] at hab
    exact .inl hab

/-- A chain to the row is still there when the row is moved: it is cut where it first comes to it. -/
theorem below_update {above : Option κ} {a : κ} (h : Relation.ReflTransGen (Below parent) a node) :
    Relation.ReflTransGen (Below (Function.update parent node above)) a node := by
  induction h using Relation.ReflTransGen.head_induction_on with
  | refl => exact .refl
  | @head a b hstep _ ih =>
      by_cases ha : a = node
      · exact ha ▸ .refl
      · refine .head ?_ ih
        rwa [Below, Function.update_of_ne ha]

/-- So it is not above the row that it is moved below. -/
theorem not_below_of_move {above : κ}
    (h : Acyclic (Below (Function.update parent node (some above)))) :
    ¬ Relation.ReflTransGen (Below parent) above node := by
  intro hchain
  have hplaced : Below (Function.update parent node (some above)) node above :=
    Function.update_self ..
  exact h node (Relation.TransGen.head' hplaced (below_update hchain))

/-- A row may always be moved to the top. -/
theorem Acyclic.detach (h : Acyclic (Below parent)) :
    Acyclic (Below (Function.update parent node none)) := by
  refine h.mono fun a b hab => ?_
  by_cases ha : a = node
  · subst ha
    rw [Below, Function.update_self] at hab
    cases hab
  · rwa [Below, Function.update_of_ne ha] at hab

/-- A row that is above no other may be placed anywhere else. -/
theorem Acyclic.place (h : Acyclic (Below parent)) (hleaf : ∀ a, parent a ≠ some node)
    {above : Option κ} (hne : above ≠ some node) :
    Acyclic (Below (Function.update parent node above)) := by
  cases above with
  | none => exact h.detach
  | some above => exact h.move (not_below_leaf hleaf fun heq => hne (congrArg some heq))

end Move

/-! ## The walk -/

/-- The rows that have been passed, the one that comes next, and the rows that have been read. -/
structure Walk (κ : Type) where
  seen : List κ
  next : Option κ
  loaded : List (κ × Option κ)

namespace Walk

variable {node first : κ}

/-- A walk from `next` that must not come to `node`. -/
def start (node : κ) (next : Option κ) (loaded : List (κ × Option κ)) : Walk κ :=
  ⟨[node], next, loaded⟩

/-- The rows between the first and the next one are known, and `node` is not among them. -/
structure Sound (node first : κ) (w : Walk κ) : Prop where
  seen : ∃ passed, w.seen = passed ++ [node] ∧ node ∉ passed ∧
    (first ∈ passed ∨ w.next = some first) ∧
    ∀ a ∈ passed, ∃ entry ∈ w.loaded, entry.1 = a ∧
      ∀ b ∈ entry.2, b ∈ passed ∨ w.next = some b

theorem Sound.start (loaded : List (κ × Option κ)) :
    Sound node first (start node (some first) loaded) :=
  ⟨[], rfl, by simp, .inr rfl, by simp⟩

/-- At the end of the walk, `node` is not above the first row, if what has been read is still the
case. -/
theorem Sound.not_below {w : Walk κ} (h : w.Sound node first) (hdone : w.next = none)
    {parent : κ → Option κ} (hcurrent : ∀ entry ∈ w.loaded, parent entry.1 = entry.2) :
    ¬ Relation.ReflTransGen (Below parent) first node := by
  obtain ⟨passed, -, hnode, hfirst, hknown⟩ := h
  have hclosed : ∀ a, Relation.ReflTransGen (Below parent) first a → a ∈ passed := by
    intro a hchain
    induction hchain with
    | refl => exact hfirst.resolve_right (by simp [hdone])
    | @tail b c _ hstep ih =>
        obtain ⟨entry, hentry, rfl, hup⟩ := hknown b ih
        have habove : entry.2 = some c := (hcurrent entry hentry).symm.trans hstep
        exact (hup c habove).resolve_right (by simp [hdone])
  exact fun hchain => hnode (hclosed node hchain)

/-- The walk has passed rows that exist, and none of them twice. -/
def Within (exist : κ → Prop) (w : Walk κ) : Prop := w.seen.Nodup ∧ ∀ id ∈ w.seen, exist id

theorem Within.mono {exist exist' : κ → Prop} {w : Walk κ} (h : w.Within exist)
    (hle : ∀ id, exist id → exist' id) : w.Within exist' :=
  ⟨h.1, fun id hid => hle id (h.2 id hid)⟩

theorem Within.start {exist : κ → Prop} (hnode : exist node) (next : Option κ)
    (loaded : List (κ × Option κ)) : (Walk.start node next loaded).Within exist :=
  ⟨List.nodup_singleton node, fun _ hid => List.mem_singleton.1 hid ▸ hnode⟩

/-- So it comes to an end. -/
theorem Within.length_le {keys : List κ} {w : Walk κ} (h : w.Within (· ∈ keys)) :
    w.seen.length ≤ keys.length :=
  (h.1.subperm h.2).length_le

variable [DecidableEq κ]

/-- The row above, as it was when it was read first. -/
def above (w : Walk κ) (id : κ) (current : Option κ) : Option κ :=
  (w.loaded.lookup id).getD current

/-- The walk passes `id`, above which there is `current`, and goes on from there. -/
def pass (w : Walk κ) (id : κ) (current : Option κ) : Walk κ :=
  ⟨id :: w.seen, w.above id current, (id, w.above id current) :: w.loaded⟩

theorem Sound.pass {w : Walk κ} (h : w.Sound node first) {id : κ} (hnext : w.next = some id)
    (hnew : id ∉ w.seen) (current : Option κ) : (w.pass id current).Sound node first := by
  obtain ⟨passed, hseen, hnode, hfirst, hknown⟩ := h
  have hne : id ≠ node := by
    rintro rfl
    exact hnew (hseen ▸ List.mem_append_right _ List.mem_cons_self)
  refine ⟨id :: passed, by rw [Walk.pass, hseen]; rfl, ?_, ?_, fun a ha => ?_⟩
  · exact fun hmem => (List.mem_cons.1 hmem).elim (fun heq => hne heq.symm) hnode
  · refine .inl (hfirst.elim (List.mem_cons_of_mem id) fun hat => ?_)
    exact Option.some.inj (hat.symm.trans hnext) ▸ List.mem_cons_self
  · rcases List.mem_cons.1 ha with rfl | hold
    · exact ⟨_, List.mem_cons_self, rfl, fun b hb => .inr hb⟩
    · obtain ⟨entry, hentry, heq, hup⟩ := hknown a hold
      refine ⟨entry, List.mem_cons_of_mem _ hentry, heq, fun b hb => .inl ?_⟩
      rcases hup b hb with hpassed | hat
      · exact List.mem_cons_of_mem _ hpassed
      · exact Option.some.inj (hat.symm.trans hnext) ▸ List.mem_cons_self

theorem Within.pass {exist : κ → Prop} {w : Walk κ} (h : w.Within exist) {id : κ} (hid : exist id)
    (hnew : id ∉ w.seen) (current : Option κ) : (w.pass id current).Within exist :=
  ⟨List.nodup_cons.2 ⟨hnew, h.1⟩, List.forall_mem_cons.2 ⟨hid, h.2⟩⟩

end Walk

/-! ## Hierarchies in tables -/

namespace Table

variable {ρ : Type} {key : ρ → κ} [DecidableEq κ] (above : ρ → Option κ)

/-- What the row with the key names as the row above. -/
def parent (t : Table key) (k : κ) : Option κ := (t.find? k).bind above

/-- No row is above itself, and what a row names is a row. -/
structure Hierarchy (t : Table key) : Prop where
  acyclic : Acyclic (Below (t.parent above))
  closed : ∀ row ∈ t.rows, ∀ k ∈ above row, ∃ other, t.find? k = some other

variable {above} {t t' : Table key} {row old : ρ}

theorem parent_set (h : t.find? (key row) = some old) :
    (t.set row).parent above = Function.update (t.parent above) (key row) (above row) := by
  funext k
  by_cases hk : k = key row
  · subst hk
    rw [Function.update_self, parent, find?_set_self h]
    rfl
  · rw [Function.update_of_ne hk, parent, find?_set_ne (Ne.symm hk)]
    rfl

theorem parent_insert? (h : t.insert? row = some t') :
    t'.parent above = Function.update (t.parent above) (key row) (above row) := by
  funext k
  rw [parent, find?_insert? h]
  by_cases hk : k = key row
  · subst hk
    rw [Function.update_self, if_pos rfl]
    rfl
  · rw [Function.update_of_ne hk, if_neg (Ne.symm hk)]
    rfl

/-- Rows that exist go on existing when a row is rewritten. -/
theorem exists_find?_set {k : κ} (row : ρ) (h : ∃ other, t.find? k = some other) :
    ∃ other, (t.set row).find? k = some other := by
  obtain ⟨other, hother⟩ := h
  by_cases hkey : key row = k
  · subst hkey
    exact ⟨row, find?_set_self hother⟩
  · exact ⟨other, (find?_set_ne hkey).trans hother⟩

theorem hierarchy_of_empty (h : t.rows = []) : t.Hierarchy above := by
  refine ⟨fun a hcircle => ?_, by simp [h]⟩
  obtain ⟨b, hfirst, -⟩ := Relation.TransGen.head'_iff.1 hcircle
  simp [Below, parent, find?, h] at hfirst

/-- A row is added below one that exists. -/
theorem Hierarchy.insert (h : t.Hierarchy above) (hinsert : t.insert? row = some t')
    (habove : ∀ k ∈ above row, ∃ other, t.find? k = some other) : t'.Hierarchy above := by
  have hfresh : ∀ k, (∃ other, t.find? k = some other) → k ≠ key row := by
    rintro k ⟨other, hother⟩ rfl
    exact insert?_fresh hinsert (mem_of_find? hother) (key_of_find? hother)
  refine ⟨?_, fun new hnew k hk => ?_⟩
  · rw [parent_insert? hinsert]
    refine h.acyclic.place (fun a ha => ?_) fun heq => hfresh _ (habove _ heq) rfl
    obtain ⟨below, hbelow, hk⟩ := Option.bind_eq_some_iff.1 ha
    exact hfresh _ (h.closed below (mem_of_find? hbelow) _ hk) rfl
  · have hold : ∃ other, t.find? k = some other := by
      rcases (mem_insert? hinsert).1 hnew with hmem | rfl
      · exact h.closed new hmem k hk
      · exact habove k hk
    obtain ⟨other, hother⟩ := hold
    exact ⟨other, find?_insert?_of_find? hinsert hother⟩

theorem Hierarchy.of_set (h : t.Hierarchy above) (hfind : t.find? (key row) = some old)
    (hacyclic : Acyclic (Below (Function.update (t.parent above) (key row) (above row))))
    (habove : ∀ k ∈ above row, ∃ other, t.find? k = some other) : (t.set row).Hierarchy above := by
  refine ⟨by rwa [parent_set hfind], fun new hnew k hk => ?_⟩
  have hold : ∃ other, t.find? k = some other := by
    rcases mem_set.1 hnew with ⟨hmem, -⟩ | ⟨rfl, -⟩
    · exact h.closed new hmem k hk
    · exact habove k hk
  exact exists_find?_set row hold

/-- A row that stays where it is may be rewritten. -/
theorem Hierarchy.rewrite (h : t.Hierarchy above) (hfind : t.find? (key row) = some old)
    (hsame : above row = above old) : (t.set row).Hierarchy above := by
  refine h.of_set hfind ?_ fun k hk => h.closed old (mem_of_find? hfind) k (hsame ▸ hk)
  have hparent : t.parent above (key row) = above row := by
    rw [parent, hfind, hsame]
    rfl
  rw [← hparent, Function.update_eq_self]
  exact h.acyclic

/-- A row is moved to the top. -/
theorem Hierarchy.detach (h : t.Hierarchy above) (hfind : t.find? (key row) = some old)
    (htop : above row = none) : (t.set row).Hierarchy above := by
  refine h.of_set hfind ?_ (by simp [htop])
  rw [htop]
  exact h.acyclic.detach

/-- A row may be given another place exactly if it is not above it. -/
theorem Hierarchy.place (h : t.Hierarchy above) (hfind : t.find? (key row) = some old)
    {given : Option (Option κ)} (hplace : above row = given.getD (above old))
    (hgiven : ∀ first ∈ given.join, ∃ other, t.find? first = some other) :
    ((∀ first ∈ given.join, ¬ Relation.ReflTransGen (Below (t.parent above)) first (key row)) →
      (t.set row).Hierarchy above) ∧
    (Acyclic (Below ((t.set row).parent above)) →
      ∀ first ∈ given.join, ¬ Relation.ReflTransGen (Below (t.parent above)) first (key row)) := by
  match given with
  | none => exact ⟨fun _ => h.rewrite hfind hplace, fun _ _ hfirst => by cases hfirst⟩
  | some none => exact ⟨fun _ => h.detach hfind hplace, fun _ _ hfirst => by cases hfirst⟩
  | some (some first) =>
    have hrow : above row = some first := hplace
    constructor
    · intro hopen
      refine h.of_set hfind ?_ fun k hk => ?_
      · rw [hrow]
        exact h.acyclic.move (hopen first rfl)
      · obtain rfl := Option.some.inj (hrow.symm.trans hk)
        exact hgiven first rfl
    · intro hacyclic k hk
      obtain rfl := Option.some.inj hk
      rw [parent_set hfind, hrow] at hacyclic
      exact not_below_of_move hacyclic

/-- The same rows, each below the same one. -/
structure SameLines (above : ρ → Option κ) (t t' : Table key) : Prop where
  parent : t'.parent above = t.parent above
  rows : ∀ k, (∃ other, t.find? k = some other) → ∃ other, t'.find? k = some other

theorem SameLines.refl (t : Table key) : SameLines above t t := ⟨rfl, fun _ => id⟩

theorem SameLines.trans {t'' : Table key} (h : SameLines above t t')
    (h' : SameLines above t' t'') : SameLines above t t'' :=
  ⟨h'.parent.trans h.parent, fun k hk => h'.rows k (h.rows k hk)⟩

theorem SameLines.set (hfind : t.find? (key row) = some old) (hsame : above row = above old) :
    SameLines above t (t.set row) := by
  refine ⟨?_, fun k hk => exists_find?_set row hk⟩
  have hparent : t.parent above (key row) = above row := by
    rw [Table.parent, hfind, hsame]
    rfl
  rw [parent_set hfind, ← hparent, Function.update_eq_self]

theorem Hierarchy.congr (h : t.Hierarchy above) (hsame : SameLines above t t') :
    t'.Hierarchy above := by
  refine ⟨hsame.parent ▸ h.acyclic, fun row' hrow k hk => hsame.rows k ?_⟩
  have habove : t'.parent above (key row') = some k := by
    rw [Table.parent, find?_of_mem hrow, Option.bind_some, Option.mem_def.1 hk]
  rw [hsame.parent] at habove
  obtain ⟨old, hold, hk⟩ := Option.bind_eq_some_iff.1 habove
  exact h.closed old (mem_of_find? hold) k hk

/-- A row is moved to where the walk started, if what the walk has read is still the case. -/
theorem Hierarchy.move (h : t.Hierarchy above) (hfind : t.find? (key row) = some old) {first : κ}
    (hplace : above row = some first) (hfirst : ∃ other, t.find? first = some other) {w : Walk κ}
    (hwalk : w.Sound (key row) first) (hdone : w.next = none)
    (hcurrent : ∀ entry ∈ w.loaded, t.parent above entry.1 = entry.2) :
    (t.set row).Hierarchy above := by
  refine h.of_set hfind ?_ fun k hk => ?_
  · rw [hplace]
    exact h.acyclic.move (hwalk.not_below hdone hcurrent)
  · obtain rfl := Option.some.inj (hplace.symm.trans hk)
    exact hfirst

/-- A row is given another place, or stays where it is if none is given. -/
theorem Hierarchy.reparent (h : t.Hierarchy above) (hfind : t.find? (key row) = some old)
    {given : Option (Option κ)} (hplace : above row = given.getD (above old)) {w : Walk κ}
    (hwalk : ∀ first ∈ given.join, (∃ other, t.find? first = some other) ∧ w.Sound (key row) first)
    (hdone : w.next = none) (hcurrent : ∀ entry ∈ w.loaded, t.parent above entry.1 = entry.2) :
    (t.set row).Hierarchy above := by
  match given with
  | none => exact h.rewrite hfind hplace
  | some none => exact h.detach hfind hplace
  | some (some first) =>
    obtain ⟨hfirst, hsound⟩ := hwalk first rfl
    exact h.move hfind hplace hfirst hsound hdone hcurrent

end Table

end Cestos.Core
