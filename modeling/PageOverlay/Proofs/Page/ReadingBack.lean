import PageOverlay.Proofs.Change.TextTurns
import PageOverlay.Proofs.Page.Operations
import PageOverlay.Proofs.Page.Rewriting

/-!
# Reading back what was set

A property that was set is read back, and all that was read elsewhere is still read there, but for
the text of the elements around a text node. The text of an element goes below the element when it
is set, while a text that is stored in the element itself is read first, so this one hides it.
-/

set_option autoImplicit false

namespace PageOverlay.Page

variable {p q : Page} {m n : Nat} {node : Node} {path other key value : String}

def Hides (p : Page) (n : NodeId) (path value : String) : Prop :=
  p.isElement n ∧ path = contentPath ∧ ∃ stored, p.stored? n contentPath = some stored ∧
    stored ≠ value

def dataNames : List String := [dataPath, nodeValuePath, contentPath]

theorem textPath_of_mem (h : path ∈ dataNames) : textPath path = dataPath := by
  simp only [dataNames, List.mem_cons, List.not_mem_nil, or_false] at h
  rcases h with rfl | rfl | rfl <;> decide

theorem setContent_of_oneText {t : NodeId} (hc : p.children n = [t]) (ht : p.isText t)
    (value : String) : p.setContent n value = p.putRaw t dataPath value := by
  simp only [setContent, hc, ht, if_true]

theorem setContent_of_not_oneText (h : ¬ OneText p n) (value : String) :
    p.setContent n value = p.replaceContent n value := by
  rw [setContent]
  split
  · next only hc => rw [if_neg fun ht => h ⟨only, hc, ht⟩]
  · rfl

theorem stored?_clear : (p.clear n).stored? m key = p.stored? m key := by
  have hall : ∀ (cs : List NodeId) (q : Page),
      (cs.foldl (fun q c => q.detach n c) q).stored? m key = q.stored? m key := by
    intro cs
    induction cs with
    | nil => exact fun _ => rfl
    | cons c cs ih => exact fun q => (ih _).trans stored?_detach
  exact hall _ p

namespace WellFormed

variable (hw : WellFormed p) (hn : p.live? n = some node)

include hw hn

theorem children_clear : (p.clear n).children n = [] := by
  have hpruned : Pruned p (p.clear n) n (p.children n) := hw.pruned hn (fun _ hc => hc) (hw.nodup n)
  rw [List.eq_nil_iff_forall_not_mem]
  exact fun c hc => hpruned.gone c (hpruned.children n c hc) hc

/-- An element that was cleared gets a new node for its text. -/
theorem replaceContent_spec (value : String) :
    (p.replaceContent n value).children n = [p.nodes.size] ∧
      (p.replaceContent n value).isText p.nodes.size ∧
      (p.replaceContent n value).stored? p.nodes.size dataPath = some value ∧
      ∀ m key, m < p.nodes.size → (p.replaceContent n value).stored? m key = p.stored? m key := by
  obtain ⟨-, node', hn'⟩ : WellFormed (p.clear n) ∧ ∃ node, (p.clear n).live? n = some node :=
    hw.detachAll hn (fun _ hc => hc) (hw.nodup n)
  have hsize : (p.clear n).nodes.size = p.nodes.size :=
    (hw.pruned hn (fun _ hc => hc) (hw.nodup n)).size
  have hlt := lt_size_of_live hn'
  have hnew : (p.replaceContent n value).live? p.nodes.size =
      some { kind := .text, parent := some n, properties := [(dataPath, value)] } := by
    rw [Page.replaceContent, live?_adopt hlt rfl, hsize, if_pos rfl]
  refine ⟨?_, isText_iff.mpr ⟨_, hnew, rfl⟩, ?_, fun m key hm => ?_⟩
  · rw [Page.replaceContent, children_adopt hn' rfl rfl, if_pos rfl, hw.children_clear hn, hsize,
      List.nil_append]
  · rw [stored?_of_live hnew]
    simp [Fields.get?]
  · rw [Page.replaceContent, stored?_adopt hlt (by omega), stored?_clear]

theorem setContent_spec (he : p.isElement n) (value : String) :
    ∃ t, (p.setContent n value).children n = [t] ∧ (p.setContent n value).isText t ∧
      (p.setContent n value).stored? t dataPath = some value ∧
      ∀ key, (p.setContent n value).stored? n key = p.stored? n key := by
  by_cases hone : OneText p n
  · obtain ⟨t, hc, ht⟩ := hone
    obtain ⟨only, hl, -⟩ := isText_iff.mp ht
    have hne : t ≠ n := fun h => not_isElement_of_isText ht (h ▸ he)
    rw [setContent_of_oneText hc ht]
    refine ⟨t, children_putRaw.trans hc, ?_, ?_, fun key => ?_⟩
    · rwa [isText_congr shape?_putRaw]
    · rw [stored?_putRaw (lt_size_of_live hl), if_pos ⟨rfl, rfl⟩]
    · rw [stored?_putRaw (lt_size_of_live hl), if_neg fun h => hne h.1]
  · obtain ⟨hc, ht, hdata, hold⟩ := hw.replaceContent_spec hn value
    rw [setContent_of_not_oneText hone]
    exact ⟨_, hc, ht, hdata, fun key => hold n key (lt_size_of_live hn)⟩

theorem live_setContent (value : String) :
    ∃ node', (p.setContent n value).live? n = some node' ∧ node'.kind = node.kind := by
  obtain ⟨node', hn'⟩ := (hw.rewrites_setContent hn value).live
  obtain ⟨found, hfound, hk, -⟩ := (Later.setContent p n value).same (live?_eq_some.mp hn).1
  rw [(live?_eq_some.mp hn').1, Option.some.injEq] at hfound
  exact ⟨node', hn', hfound ▸ hk⟩

theorem property?_setContent (he : p.isElement n) (value : String) :
    (p.setContent n value).property? n contentPath =
      (p.stored? n contentPath).or (some value) := by
  obtain ⟨tag, hk⟩ := (isElement_of_live hn).mp he
  obtain ⟨node', hn', hk'⟩ := hw.live_setContent hn value
  obtain ⟨t, hc, ht, hdata, hkept⟩ := hw.setContent_spec hn he value
  have htext := textContent_single hn' (hk'.trans hk) hc ht
  rw [property?_of_element hn' (hk'.trans hk), hkept, if_pos rfl, htext, hdata, Option.getD_some]

end WellFormed

theorem fst_cell (hn : p.live? n = some node) (hp : ¬ (p.isElement n ∧ path = contentPath)) :
    (p.cell n path).1 = n := by
  cases hk : node.kind with
  | text => rw [cell_of_text hn hk]
  | other => rw [cell_of_other hn hk]
  | element tag =>
    rw [cell_of_element hn hk fun hpath => hp ⟨(isElement_of_live hn).mpr ⟨tag, hk⟩, hpath⟩]

theorem sets_setProperty (h : p.setProperty n path value = .ok q)
    (hp : ¬ (p.isElement n ∧ path = contentPath)) : Sets p q n (p.cell n path).2 value := by
  have ha := setProperty_isOk_iff.mp ⟨q, h⟩
  obtain ⟨node, hn⟩ := ha.1
  rw [setProperty_of_direct ha fun he hpath => absurd ⟨he, hpath⟩ hp, fst_cell hn hp,
    Except.ok.injEq] at h
  rw [← h]
  exact sets_putRaw (lt_size_of_live hn)

theorem property?_setProperty (hw : WellFormed p) (h : p.setProperty n path value = .ok q) :
    (p.Hides n path value → q.property? n path = p.property? n path) ∧
      (¬ p.Hides n path value → q.property? n path = some value) := by
  obtain ⟨node, hn⟩ := (setProperty_isOk_iff.mp ⟨q, h⟩).1
  by_cases hp : p.isElement n ∧ path = contentPath
  · obtain ⟨he, rfl⟩ := hp
    obtain ⟨tag, hk⟩ := (isElement_of_live hn).mp he
    rw [setProperty_of_element hn hk, if_pos rfl, Except.ok.injEq] at h
    rw [← h, hw.property?_setContent hn he, property?_of_element hn hk]
    cases hstored : p.stored? n contentPath with
    | none => simp [Hides, hstored]
    | some stored => simp [Hides, he, hstored]
  · refine ⟨fun hh => absurd ⟨hh.1, hh.2.1⟩ hp, fun _ => ?_⟩
    have hs := sets_setProperty h hp
    obtain ⟨node', hn', -⟩ := live_of_shape (hs.shape n) hn
    have hd : q.Direct n path := by
      intro he hpath
      rw [isElement_congr (hs.shape n)] at he
      exact absurd ⟨he, hpath⟩ hp
    apply property?_of_stored hn' hd
    rw [cell_congr (hs.shape n), fst_cell hn hp, hs.value]

theorem Sets.size_le (h : Sets p q n key value) : p.nodes.size ≤ q.nodes.size := by
  by_contra hlt
  have hshape := h.shape q.nodes.size
  rw [shape?, shape?, Array.getElem?_eq_none (Nat.le_refl _),
    Array.getElem?_eq_getElem (Nat.lt_of_not_le hlt)] at hshape
  cases hshape

/-- The text of an element is read from the text nodes below it, among them the one that is set. -/
structure Derives (p : Page) (m : NodeId) (other : String) (n : NodeId) (path : String) : Prop where
  element : p.isElement m
  content : other = contentPath
  unstored : p.stored? m contentPath = none
  text : p.isText n
  data : textPath path = dataPath
  below : Under p m n

/-- Nothing reads otherwise but the property that was set, under any of its names, and what derives
from it. -/
theorem property?_of_sets (hw : WellFormed p) (hn : p.live? n = some node)
    (hp : ¬ (p.isElement n ∧ path = contentPath)) (hs : Sets p q n (p.cell n path).2 value)
    (hcell : ¬ (m = n ∧ p.cell m other = p.cell n path)) (hd : ¬ p.Derives m other n path) :
    q.property? m other = p.property? m other := by
  cases hm : p.live? m with
  | none => rw [property?, property?, hm, dead_of_shape (hs.shape m) hm]
  | some found =>
    obtain ⟨found', hm', hk', -⟩ := live_of_shape (hs.shape m) hm
    have hcellpath : p.cell n path = (n, (p.cell n path).2) := Prod.ext (fst_cell hn hp) rfl
    cases hk : found.kind with
    | text =>
      rw [property?_of_text hm' (hk'.trans hk), property?_of_text hm hk]
      refine hs.others m _ fun he => hcell ⟨congrArg Prod.fst he, ?_⟩
      rw [cell_of_text hm hk, hcellpath, he]
    | other =>
      rw [property?_of_other hm' (hk'.trans hk), property?_of_other hm hk]
      refine hs.others m _ fun he => hcell ⟨congrArg Prod.fst he, ?_⟩
      rw [cell_of_other hm hk, hcellpath, he]
    | element tag =>
      have he : p.isElement m := (isElement_of_live hm).mpr ⟨tag, hk⟩
      have hstored : q.stored? m other = p.stored? m other := by
        refine hs.others m other fun hsame => ?_
        obtain ⟨rfl, hother⟩ := Prod.mk.inj hsame
        have hpath : path ≠ contentPath := fun hpath => hp ⟨he, hpath⟩
        rw [cell_of_element hm hk hpath] at hother
        exact hcell ⟨rfl, by rw [hother]⟩
      rw [property?_of_element hm' (hk'.trans hk), property?_of_element hm hk, hstored]
      by_cases hread : p.stored? m other = none ∧ other = contentPath
      · obtain ⟨hnone, rfl⟩ := hread
        have htext : q.textContent m = p.textContent m := by
          refine hw.textContent_congr ⟨found, hm⟩ hs.size_le (fun k _ => hs.shape k) ?_
          intro k hunder htext
          refine hs.others k dataPath fun hsame => hd ?_
          rw [← hcellpath] at hsame
          obtain rfl : k = n := (congrArg Prod.fst hsame).trans (fst_cell hn hp)
          obtain ⟨only, hl, hkind⟩ := isText_iff.mp htext
          rw [cell_of_text hl hkind] at hsame
          exact ⟨he, rfl, hnone, htext, (congrArg Prod.snd hsame).symm, hunder⟩
        rw [htext]
      · cases hread' : p.stored? m other with
        | some stored => rfl
        | none =>
          have hc : other ≠ contentPath := fun hc => hread ⟨hread', hc⟩
          rw [if_neg hc, if_neg hc]

/-- A property that was set is read back, unless it is the text of an element in which another text
is stored; then that one is read as before. All names of the data of a text node lead to one place.
A property that is no text of an element is the only thing that changes in the page, and nothing
else reads otherwise afterwards but the texts of elements above. -/
theorem setProperty_reads_back (hp : p.Reachable) (h : p.setProperty n path value = .ok q) :
    (q.property? n path = some value ↔ ¬ p.Hides n path value) ∧
      (p.Hides n path value → q.property? n path = p.property? n path) ∧
      (p.isText n → path ∈ dataNames → ∀ other ∈ dataNames,
        p.setProperty n other value = .ok q ∧ q.property? n other = some value) ∧
      (¬ (p.isElement n ∧ path = contentPath) →
        Sets p q n (p.cell n path).2 value ∧
          ∀ m other, ¬ (m = n ∧ p.cell m other = p.cell n path) → ¬ p.Derives m other n path →
            q.property? m other = p.property? m other) := by
  have hw := hp.wellFormed
  obtain ⟨node, hn⟩ := (setProperty_isOk_iff.mp ⟨q, h⟩).1
  obtain ⟨hhidden, hread⟩ := property?_setProperty hw h
  refine ⟨⟨fun hback hh => ?_, hread⟩, hhidden, fun ht hpath other hother => ?_, fun hc => ?_⟩
  · -- what is hidden reads as what is stored, which is another text
    obtain ⟨he, rfl, stored, hstored, hne⟩ := hh
    obtain ⟨tag, hk⟩ := (isElement_of_live hn).mp he
    rw [hhidden ⟨he, rfl, stored, hstored, hne⟩, property?_of_element hn hk, hstored] at hback
    exact hne (Option.some.inj hback)
  · have hset (path : String) (hpath : path ∈ dataNames) :
        p.setProperty n path value = p.setProperty n dataPath value := by
      obtain ⟨node, hn, hk⟩ := isText_iff.mp ht
      rw [setProperty_of_text hn hk, setProperty_of_text hn hk, textPath_of_mem hpath]
      rfl
    have hother' : p.setProperty n other value = .ok q := by
      rw [hset other hother, ← hset path hpath, h]
    exact ⟨hother', (property?_setProperty hw hother').2
      fun hh => not_isElement_of_isText ht hh.1⟩
  · have hs := sets_setProperty h hc
    exact ⟨hs, fun m other hcell hd => property?_of_sets hw hn hc hs hcell hd⟩

def scriptPage : Page :=
  (Page.blank "x").perform (.appendElement root "script" [(contentPath, "a")])

def rewrittenScript : Page := scriptPage.perform (.setProperty 1 contentPath "b")

theorem setProperty_reads_back_stored :
    scriptPage.Reachable ∧ scriptPage.setProperty 1 contentPath "b" = .ok rewrittenScript ∧
      rewrittenScript.property? 1 contentPath = some "a" ∧
      ¬ rewrittenScript.property? 1 contentPath = some "b" := by
  have hp : scriptPage.Reachable := (Reachable.blank "x").perform _
  have h : scriptPage.setProperty 1 contentPath "b" = .ok rewrittenScript := by decide +kernel
  have hh : scriptPage.Hides 1 contentPath "b" :=
    ⟨by decide +kernel, rfl, "a", by decide +kernel, by decide⟩
  obtain ⟨hback, hhidden, -⟩ := setProperty_reads_back hp h
  have hbefore : scriptPage.property? 1 contentPath = some "a" := by decide +kernel
  exact ⟨hp, h, (hhidden hh).trans hbefore, fun hb => hback.mp hb hh⟩

theorem exists_hidden_write :
    ¬ ∀ (p q : Page) (n : NodeId) (path value : String), p.Reachable →
      p.setProperty n path value = .ok q → q.property? n path = some value := by
  intro h
  have hback := h scriptPage rewrittenScript 1 contentPath "b" ((Reachable.blank "x").perform _)
    (by decide +kernel)
  have hread : rewrittenScript.property? 1 contentPath = some "a" := by decide +kernel
  rw [hread] at hback
  exact absurd hback (by decide)

end PageOverlay.Page
