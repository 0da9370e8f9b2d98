import PageOverlay.Proofs.Page.Cells
import PageOverlay.Proofs.Page.Order

/-!
# The content of elements

The text of an element depends on what stands below it and on nothing else. Setting it touches one
text node, or it removes all that stands below the element.
-/

set_option autoImplicit false

namespace PageOverlay.Page

variable {p q : Page} {a m n : Nat} {node : Node} {path key value : String}

def SameBelow (p q : Page) (n : NodeId) : Prop := ∀ m, Under p n m → q.nodes[m]? = p.nodes[m]?

def OneText (p : Page) (n : NodeId) : Prop := ∃ t, p.children n = [t] ∧ p.isText t

namespace WellFormed

theorem textUpTo_succ (hw : WellFormed p) (hn : ∃ node, p.live? n = some node) {depth : Nat}
    (h : p.nodes.size ≤ depth + n) : p.textUpTo (depth + 1) n = p.textUpTo depth n := by
  induction depth generalizing n with
  | zero =>
    obtain ⟨node, hl⟩ := hn
    have := lt_size_of_live hl
    omega
  | succ depth ih =>
    obtain ⟨node, hl⟩ := hn
    rw [textUpTo, textUpTo, (live?_eq_some.mp hl).1]
    have hbelow : node.children.flatMap (p.textUpTo (depth + 1)) =
        node.children.flatMap (p.textUpTo depth) := by
      rw [List.flatMap_def, List.flatMap_def]
      congr 1
      apply List.map_congr_left
      intro c hc
      rw [← children_of_live hl] at hc
      obtain ⟨hlt, node', hc', -⟩ := hw.child hc
      have hle : n < c := hlt
      exact ih ⟨node', hc'⟩ (by omega)
    simp only [hbelow]

theorem textUpTo_size (hw : WellFormed p) (hn : ∃ node, p.live? n = some node) (more : Nat) :
    p.textUpTo (p.nodes.size + 1 + more) n = p.textUpTo (p.nodes.size + 1) n := by
  induction more with
  | zero => rfl
  | succ more ih => rw [← Nat.add_assoc, hw.textUpTo_succ hn (by omega), ih]

theorem textUpTo_congr (hw : WellFormed p) (hn : ∃ node, p.live? n = some node)
    (hs : ∀ m, Under p n m → q.shape? m = p.shape? m)
    (hd : ∀ m, Under p n m → p.isText m → q.stored? m dataPath = p.stored? m dataPath)
    (depth : Nat) : q.textUpTo depth n = p.textUpTo depth n := by
  induction depth generalizing n with
  | zero => rfl
  | succ depth ih =>
    obtain ⟨node, hl⟩ := hn
    obtain ⟨node', hl', hk, -, hc⟩ := live_of_shape (hs n (.refl n)) hl
    rw [textUpTo, textUpTo, (live?_eq_some.mp hl).1, (live?_eq_some.mp hl').1]
    have hbelow : node.children.flatMap (q.textUpTo depth) =
        node.children.flatMap (p.textUpTo depth) := by
      rw [List.flatMap_def, List.flatMap_def]
      congr 1
      apply List.map_congr_left
      intro c hmem
      rw [← children_of_live hl] at hmem
      obtain ⟨-, found, hfound, -⟩ := hw.child hmem
      exact ih ⟨found, hfound⟩ (fun m hm => hs m (.step hmem hm)) fun m hm => hd m (.step hmem hm)
    simp only [hk, hc]
    cases hkind : node.kind with
    | text =>
      have hdata := hd n (.refl n) (isText_iff.mpr ⟨node, hl, hkind⟩)
      rw [stored?_of_live hl, stored?_of_live hl'] at hdata
      simp only [hdata]
    | other => exact hbelow
    | element tag => exact hbelow

theorem textContent_congr (hw : WellFormed p) (hn : ∃ node, p.live? n = some node)
    (hsize : p.nodes.size ≤ q.nodes.size) (hs : ∀ m, Under p n m → q.shape? m = p.shape? m)
    (hd : ∀ m, Under p n m → p.isText m → q.stored? m dataPath = p.stored? m dataPath) :
    q.textContent n = p.textContent n := by
  obtain ⟨more, hmore⟩ := Nat.le.dest hsize
  have hdepth : q.nodes.size + 1 = p.nodes.size + 1 + more := by omega
  rw [textContent, textContent, hw.textUpTo_congr hn hs hd, hdepth, hw.textUpTo_size hn]

end WellFormed

namespace SameBelow

variable (h : SameBelow p q n)

include h

theorem shape? (hm : Under p n m) : q.shape? m = p.shape? m := by
  rw [Page.shape?, Page.shape?, h m hm]

theorem stored? (hm : Under p n m) : q.stored? m key = p.stored? m key := by
  rw [Page.stored?, Page.stored?, h m hm]

theorem live? (hm : Under p n m) : q.live? m = p.live? m := live?_congr (h m hm)

theorem children (hm : Under p n m) : q.children m = p.children m := by
  rw [Page.children, Page.children, h.live? hm]

theorem under_iff : Under q n m ↔ Under p n m := by
  have hback : ∀ {a b : Nat}, Under q a b → Under p n a → Under p a b := by
    intro a b hq ha
    induction hq with
    | refl => exact .refl _
    | step hc _ ih =>
      rw [h.children ha] at hc
      exact .step hc (ih (ha.child hc))
  have hforth : ∀ {a b : Nat}, Under p a b → Under p n a → Under q a b := by
    intro a b hp ha
    induction hp with
    | refl => exact .refl _
    | step hc _ ih =>
      have hc' := hc
      rw [← h.children ha] at hc'
      exact .step hc' (ih (ha.child hc))
  exact ⟨fun hu => hback hu (.refl n), fun hu => hforth hu (.refl n)⟩

theorem oneText_iff : OneText q n ↔ OneText p n := by
  rw [OneText, OneText, h.children (.refl n)]
  constructor
  · rintro ⟨t, hc, ht⟩
    refine ⟨t, hc, ?_⟩
    rwa [isText_congr (h.shape? (.step (by simp [hc]) (.refl t)))] at ht
  · rintro ⟨t, hc, ht⟩
    refine ⟨t, hc, ?_⟩
    rwa [isText_congr (h.shape? (.step (by simp [hc]) (.refl t)))]

theorem property? (hw : WellFormed p) (hsize : p.nodes.size ≤ q.nodes.size)
    (hn : p.live? n = some node) : q.property? n path = p.property? n path := by
  have htext : q.textContent n = p.textContent n :=
    hw.textContent_congr ⟨node, hn⟩ hsize (fun m hm => h.shape? hm) fun m hm _ => h.stored? hm
  rw [Page.property?, Page.property?, h.live? (.refl n), htext]

end SameBelow

end PageOverlay.Page
