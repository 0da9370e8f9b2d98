import PageOverlay.Proofs.Page.ReadingBack
import PageOverlay.Proofs.Rule.Numbering

/-!
# Taking a change back again

What taking a change back does is told case by case: a property that reads otherwise by now stays as
it is, else one property is set again; a node that is still there is taken out with all below it; a
rule leaves its book. Afterwards the same change has nothing left to take back.
-/

set_option autoImplicit false

namespace PageOverlay

namespace Page

variable {p q : Page} {m n up : Nat} {node : Node} {path value : String}

structure SetsContent (p q : Page) (n : NodeId) (value : String) : Prop where
  location : q.location = p.location
  text : ∃ t, q.children n = [t] ∧ q.isText t ∧ q.stored? t dataPath = some value
  kind : q.kind? n = p.kind? n
  stored : ∀ key, q.stored? n key = p.stored? n key
  outside : ∀ m, m < p.nodes.size → ¬ Under p n m → q.nodes[m]? = p.nodes[m]?
  new : ∀ m, p.nodes.size ≤ m → m < q.nodes.size → Under q n m

structure Removes (p q : Page) (n up : NodeId) : Prop where
  child : n ∈ p.children up
  location : q.location = p.location
  below : ∀ m, Under p n m →
    q.nodes[m]? = p.nodes[m]?.map fun node => { node with removed := true }
  parent : q.nodes[up]? =
    p.nodes[up]?.map fun node => { node with children := node.children.filter (· ≠ n) }
  outside : ∀ m, ¬ Under p n m → m ≠ up → q.nodes[m]? = p.nodes[m]?

theorem eq_of_nodes (hl : q.location = p.location) (hn : ∀ m : Nat, q.nodes[m]? = p.nodes[m]?) :
    q = p := by
  cases p
  cases q
  obtain rfl := hl
  obtain rfl := Array.ext_getElem? hn
  rfl

theorem putRaw_putRaw (p : Page) (n : NodeId) (path value : String) :
    (p.putRaw n path value).putRaw n path value = p.putRaw n path value := by
  refine eq_of_nodes rfl fun m => ?_
  rw [putRaw, nodes_modify, putRaw, nodes_modify]
  by_cases hm : n = m
  · simp [hm, Function.comp_def, Fields.put_put]
  · rw [if_neg hm]

theorem putRaw_replaceContent (hw : WellFormed p) (hn : p.live? n = some node) (value : String) :
    (p.replaceContent n value).putRaw p.nodes.size dataPath value = p.replaceContent n value := by
  obtain ⟨-, node', hn'⟩ : WellFormed (p.clear n) ∧ ∃ node, (p.clear n).live? n = some node :=
    hw.detachAll hn (fun _ hc => hc) (hw.nodup n)
  have hsize : (p.clear n).nodes.size = p.nodes.size :=
    (hw.pruned hn (fun _ hc => hc) (hw.nodup n)).size
  refine eq_of_nodes rfl fun m => ?_
  rw [putRaw, nodes_modify]
  by_cases hm : p.nodes.size = m
  · rw [if_pos hm, Page.replaceContent, nodes_adopt (lt_size_of_live hn'), if_pos (by omega)]
    simp [Fields.put]
  · rw [if_neg hm]

theorem setContent_setContent (hw : WellFormed p) (hn : p.live? n = some node)
    (value : String) : (p.setContent n value).setContent n value = p.setContent n value := by
  by_cases hone : OneText p n
  · obtain ⟨t, hc, ht⟩ := hone
    have hc' : (p.putRaw t dataPath value).children n = [t] := children_putRaw.trans hc
    have ht' : (p.putRaw t dataPath value).isText t := by rwa [isText_congr shape?_putRaw]
    rw [setContent_of_oneText hc ht, setContent_of_oneText hc' ht', putRaw_putRaw]
  · obtain ⟨hc, ht, -⟩ := hw.replaceContent_spec hn value
    rw [setContent_of_not_oneText hone, setContent_of_oneText hc ht, putRaw_replaceContent hw hn]

theorem setProperty_again (hw : WellFormed p) (h : p.setProperty n path value = .ok q) :
    q.setProperty n path value = .ok q := by
  have ha := setProperty_isOk_iff.mp ⟨q, h⟩
  obtain ⟨node, hn⟩ := ha.1
  by_cases hp : p.isElement n ∧ path = contentPath
  · obtain ⟨he, rfl⟩ := hp
    obtain ⟨tag, hk⟩ := (isElement_of_live hn).mp he
    rw [setProperty_of_element hn hk, if_pos rfl, Except.ok.injEq] at h
    obtain ⟨node', hn', hk'⟩ := hw.live_setContent hn value
    rw [← h, setProperty_of_element hn' (hk'.trans hk), if_pos rfl,
      setContent_setContent hw hn]
  · have hd : p.Direct n path := fun he hpath => absurd ⟨he, hpath⟩ hp
    rw [setProperty_of_direct ha hd, Except.ok.injEq] at h
    have hshape (m : NodeId) : q.shape? m = p.shape? m := by rw [← h, shape?_putRaw]
    have hd' : q.Direct n path := by
      intro he hpath
      rw [isElement_congr (hshape n)] at he
      exact absurd ⟨he, hpath⟩ hp
    rw [setProperty_of_direct (accepts_congr (hshape n) ha) hd', cell_congr (hshape n), ← h,
      putRaw_putRaw]

theorem setsContent_setContent (hw : WellFormed p) (hn : p.live? n = some node)
    (he : p.isElement n) (value : String) : SetsContent p (p.setContent n value) n value := by
  have hr := hw.rewrites_setContent hn value
  obtain ⟨t, hc, ht, hdata, hstored⟩ := hw.setContent_spec hn he value
  obtain ⟨node', hn', hk'⟩ := hw.live_setContent hn value
  refine ⟨hr.location, ⟨t, hc, ht, hdata⟩, ?_, hstored, hr.outside, fun m hm hlt => ?_⟩
  · rw [kind?_of_live hn', kind?_of_live hn, hk']
  · -- only a new text can come after the nodes that were there
    by_cases hone : OneText p n
    · obtain ⟨s, hs, hs'⟩ := hone
      rw [setContent_of_oneText hs hs', size_putRaw] at hlt
      omega
    · have hsize : (p.clear n).nodes.size = p.nodes.size :=
        (hw.pruned hn (fun _ hc => hc) (hw.nodup n)).size
      have hnew := (hw.replaceContent_spec hn value).1
      rw [setContent_of_not_oneText hone] at hlt ⊢
      rw [Page.replaceContent, size_adopt, hsize] at hlt
      obtain rfl : m = p.nodes.size := by omega
      exact .step (hnew ▸ List.mem_singleton_self _) (.refl _)

theorem refused_of_setProperty {e : MutationError} (hn : ∃ node, p.live? n = some node)
    (h : p.setProperty n path value = .error e) :
    p.isElement n ∧ path = "" ∧ e = .noProperty n "" := by
  obtain ⟨node, hn⟩ := hn
  cases hk : node.kind with
  | text =>
    rw [setProperty_of_text hn hk] at h
    cases h
  | other =>
    rw [setProperty_of_other hn hk] at h
    cases h
  | element tag =>
    rw [setProperty_of_element hn hk] at h
    split_ifs at h with hcontent hempty
    · subst hempty
      cases h
      exact ⟨(isElement_of_live hn).mpr ⟨tag, hk⟩, rfl, rfl⟩

theorem removes_detach (hw : WellFormed p) (hn : n ∈ p.children up) :
    Removes p (p.detach up n) n up where
  child := hn
  location := location_detach
  below m hm := by
    have hne : up ≠ m := fun h => hw.not_under_self hn (h ▸ hm)
    rw [nodes_detach, if_pos ((hw.mem_descendants_unlink hn).mpr hm), unlink, nodes_modify,
      if_neg hne]
  parent := by
    rw [nodes_detach, if_neg fun h => hw.not_under_self hn ((hw.mem_descendants_unlink hn).mp h),
      unlink, nodes_modify, if_pos rfl]
  outside m hm hne := by
    rw [nodes_detach, if_neg fun h => hm ((hw.mem_descendants_unlink hn).mp h), unlink,
      nodes_modify, if_neg (Ne.symm hne)]

theorem Removes.dead (h : Removes p q n up) : q.live? n = none := by
  rw [live?, h.below n (.refl n)]
  cases p.nodes[n]? <;> rfl

end Page

theorem RuleBook.remove_remove {α : Type} (b : RuleBook α) (id : Nat) :
    (b.remove id).remove id = b.remove id :=
  remove_of_not_mem (by simp [remove])

namespace Undo

/-- What taking a change back gives in a world, and the world that it leaves. -/
inductive Reverts (w : World) : Undo → Except MutationError Unit → World → Prop
  | stale {n : NodeId} {path before after : String} (h : w.page.property? n path ≠ some after) :
      Reverts w (.property n path before after) (.ok ()) w
  | refused {n : NodeId} {before after : String} (h : w.page.property? n "" = some after)
      (he : w.page.isElement n) :
      Reverts w (.property n "" before after) (.error (.noProperty n "")) w
  | reset {n : NodeId} {path before after : String} {q : Page}
      (h : w.page.property? n path = some after)
      (hp : ¬ (w.page.isElement n ∧ path = Page.contentPath))
      (hs : w.page.Sets q n (w.page.cell n path).2 before) :
      Reverts w (.property n path before after) (.ok ()) { w with page := q }
  | refilled {n : NodeId} {before after : String} {q : Page}
      (h : w.page.property? n Page.contentPath = some after) (he : w.page.isElement n)
      (hs : w.page.SetsContent q n before) :
      Reverts w (.property n Page.contentPath before after) (.ok ()) { w with page := q }
  | gone {n : NodeId} (h : w.page.live? n = none) : Reverts w (.insertion n) (.ok ()) w
  | root : Reverts w (.insertion Page.root) (.error .rootRemoval) w
  | removed {n up : NodeId} {q : Page} (hr : w.page.Removes q n up) :
      Reverts w (.insertion n) (.ok ()) { w with page := q }
  | request {id : Nat} {book : RequestRules} (hlast : book.last = w.requests.last)
      (hrules : book.entries = w.requests.entries.filter (·.1 ≠ id)) :
      Reverts w (.requestRule id) (.ok ()) { w with requests := book }
  | response {id : Nat} {book : ResponseRules} (hlast : book.last = w.responses.last)
      (hrules : book.entries = w.responses.entries.filter (·.1 ≠ id)) :
      Reverts w (.responseRule id) (.ok ()) { w with responses := book }

variable {w w' : World} {u : Undo} {r : Except MutationError Unit}

theorem Reverts.eq_of_error {e : MutationError} (h : u.Reverts w (.error e) w') : w' = w := by
  cases h <;> rfl

theorem reverts_property (hw : w.page.WellFormed) (n : NodeId) (path before after : String) :
    (Undo.property n path before after).Reverts w
      ((Undo.property n path before after).revert.run w).1
      ((Undo.property n path before after).revert.run w).2 := by
  rw [Change.run_revert_property]
  by_cases hread : w.page.property? n path = some after
  · rw [if_pos hread, Change.run_setProperty]
    cases hset : w.page.setProperty n path before with
    | error e =>
      obtain ⟨he, rfl, rfl⟩ := Page.refused_of_setProperty (Page.live_of_property? hread) hset
      exact .refused hread he
    | ok q =>
      by_cases hp : w.page.isElement n ∧ path = Page.contentPath
      · obtain ⟨he, rfl⟩ := hp
        obtain ⟨node, tag, hn, hk⟩ := Page.isElement_iff.mp he
        rw [Page.setProperty_of_element hn hk, if_pos rfl, Except.ok.injEq] at hset
        exact .refilled hread he (hset ▸ Page.setsContent_setContent hw hn he before)
      · exact .reset hread hp (Page.sets_setProperty hset hp)
  · rw [if_neg hread]
    exact .stale hread

theorem reverts_insertion (hw : w.page.WellFormed) (n : NodeId) :
    (Undo.insertion n).Reverts w ((Undo.insertion n).revert.run w).1
      ((Undo.insertion n).revert.run w).2 := by
  rw [Change.run_revert_insertion]
  cases hn : w.page.live? n with
  | none => exact .gone hn
  | some node =>
    rw [if_pos Option.isSome_some, Change.run_remove, Page.remove, hn]
    cases hup : node.parent with
    | none =>
      simp only [hup]
      obtain rfl : n = Page.root := by
        by_contra hroot
        obtain ⟨up, hparent, -⟩ := hw.parent hn hroot
        rw [hup] at hparent
        cases hparent
      exact .root
    | some up =>
      simp only [hup]
      exact .removed (Page.removes_detach hw (hw.mem_children_of_parent hn hup))

/-- Once a change was taken back it stays as it is when it is taken back again. -/
theorem revert_again (hw : w.page.WellFormed) (u : Undo) :
    u.revert.run (u.revert.run w).2 = u.revert.run w := by
  cases u with
  | property n path before after =>
    by_cases hread : w.page.property? n path = some after
    · cases hset : w.page.setProperty n path before with
      | error e =>
        have hrun : (Undo.property n path before after).revert.run w = (.error e, w) := by
          rw [Change.run_revert_property, if_pos hread, Change.run_setProperty, hset]
        rw [hrun, hrun]
      | ok q =>
        have hrun : (Undo.property n path before after).revert.run w =
            (.ok (), { w with page := q }) := by
          rw [Change.run_revert_property, if_pos hread, Change.run_setProperty, hset]
        -- what was set may read as before, and is then set once more
        rw [hrun, Change.run_revert_property, Change.run_setProperty,
          Page.setProperty_again hw hset]
        split <;> rfl
    · have hrun : (Undo.property n path before after).revert.run w = (.ok (), w) := by
        rw [Change.run_revert_property, if_neg hread]
      rw [hrun, hrun]
  | insertion n =>
    generalize hrun : (Undo.insertion n).revert.run w = o
    obtain ⟨r, w'⟩ := o
    have h := reverts_insertion hw n
    rw [hrun] at h
    cases h with
    | gone hn => exact hrun
    | root => exact hrun
    | removed hr => rw [Change.run_revert_insertion, hr.dead]; rfl
  | requestRule id =>
    exact congrArg (fun book => (Except.ok (), { w with requests := book }))
      (RuleBook.remove_remove w.requests id)
  | responseRule id =>
    exact congrArg (fun book => (Except.ok (), { w with responses := book }))
      (RuleBook.remove_remove w.responses id)

/-- Taking a change back touches nothing but what was changed, does nothing if it fails, and leaves
nothing to do for the next time. -/
theorem revert_spec (u : Undo) (hp : w.page.Reachable) :
    u.Reverts w (u.revert.run w).1 (u.revert.run w).2 ∧
      u.revert.run (u.revert.run w).2 = u.revert.run w ∧
      ∀ e, (u.revert.run w).1 = .error e → (u.revert.run w).2 = w := by
  have hw := hp.wellFormed
  have hreverts : u.Reverts w (u.revert.run w).1 (u.revert.run w).2 := by
    cases u with
    | property n path before after => exact reverts_property hw n path before after
    | insertion n => exact reverts_insertion hw n
    | requestRule id => exact .request rfl rfl
    | responseRule id => exact .response rfl rfl
  refine ⟨hreverts, revert_again hw u, fun e he => ?_⟩
  rw [he] at hreverts
  exact hreverts.eq_of_error

def noticeWorld : World where
  page := .ofSnapshot {
    location := "x"
    root := .node (some "html") none [] [.node (some "p") none [] [
      .node none (some "a") [] [], .node (some "b") none [] []]] }

def noticeUndo : Undo := .property 1 Page.contentPath "c" "a"

theorem revert_spec_notice :
    noticeWorld.page.Reachable ∧ noticeWorld.page.children 1 = [2, 3] ∧
      (noticeUndo.revert.run noticeWorld).2.page.children 1 = [4] ∧
      noticeUndo.Reverts noticeWorld (noticeUndo.revert.run noticeWorld).1
        (noticeUndo.revert.run noticeWorld).2 ∧
      noticeUndo.revert.run (noticeUndo.revert.run noticeWorld).2 =
        noticeUndo.revert.run noticeWorld := by
  have hp : noticeWorld.page.Reachable := .ofSnapshot _
  obtain ⟨hreverts, hagain, -⟩ := revert_spec noticeUndo hp
  exact ⟨hp, by decide +kernel, by decide +kernel, hreverts, hagain⟩

end Undo
end PageOverlay
