import PageOverlay.Proofs.Page.WellFormed

/-!
# The cells of a page

A property is kept in one cell of one node, and several names may lead to it: a text node has one
cell for its data, and the text of an element that holds a single text node is kept there too.
Setting a property writes its cell.
-/

set_option autoImplicit false

namespace PageOverlay

def Node.shape (node : Node) : Node := { node with properties := [] }

theorem Node.shape_eq_iff {a b : Node} :
    a.shape = b.shape ↔
      a.kind = b.kind ∧ a.parent = b.parent ∧ a.children = b.children ∧ a.removed = b.removed := by
  cases a
  cases b
  simp [shape]

theorem Node.shape_without_last {node there : Node} {m : Nat} (hm : ∀ c ∈ node.children, c ≠ m)
    (h : there.shape = { node with children := node.children ++ [m] }.shape) :
    { there with children := there.children.filter (· ≠ m) }.shape = node.shape := by
  obtain ⟨hkind, hparent, hchildren, hremoved⟩ := Node.shape_eq_iff.mp h
  refine Node.shape_eq_iff.mpr ⟨hkind, hparent, ?_, hremoved⟩
  change there.children.filter (· ≠ m) = node.children
  rw [hchildren, List.filter_append, List.filter_eq_self.mpr]
  · simp
  · intro c hc
    simpa using hm c hc

namespace Page

def stored? (p : Page) (n : NodeId) (key : String) : Option String :=
  p.nodes[n]?.bind fun node => Fields.get? key node.properties

def shape? (p : Page) (n : NodeId) : Option Node := p.nodes[n]?.map Node.shape

def Accepts (p : Page) (n : NodeId) (path : String) : Prop :=
  (∃ node, p.live? n = some node) ∧ (p.isElement n → path ≠ "")

/-- The property is no content of an element, or the content of one that holds a single text node
and has no property of that name. -/
def Direct (p : Page) (n : NodeId) (path : String) : Prop :=
  p.isElement n → path = contentPath →
    p.stored? n contentPath = none ∧ ∃ t, p.children n = [t] ∧ p.isText t

def cell (p : Page) (n : NodeId) (path : String) : NodeId × String :=
  match p.kind? n with
  | some .text => (n, textPath path)
  | some (.element _) =>
    if path = contentPath then
      match p.children n with
      | [t] => (t, dataPath)
      | _ => (n, path)
    else (n, path)
  | _ => (n, path)

variable {p q : Page} {n m up : Nat} {node : Node} {path key value : String}

theorem stored?_of_live (h : p.live? n = some node) :
    p.stored? n key = Fields.get? key node.properties := by
  rw [stored?, (live?_eq_some.mp h).1, Option.bind_some]

theorem stored?_putRaw (hn : n < p.nodes.size) :
    (p.putRaw n path value).stored? m key =
      if n = m ∧ path = key then some value else p.stored? m key := by
  rw [stored?, putRaw, nodes_modify, stored?]
  by_cases hm : n = m
  · subst hm
    rw [if_pos rfl, Array.getElem?_eq_getElem hn]
    by_cases hk : path = key
    · subst hk
      rw [if_pos ⟨rfl, rfl⟩]
      exact Fields.get?_put_self _ _ _
    · rw [if_neg fun h => hk h.2]
      exact Fields.get?_put_of_ne (Ne.symm hk) _ _
  · rw [if_neg hm, if_neg fun h => hm h.1]

@[simp] theorem shape?_putRaw : (p.putRaw n path value).shape? m = p.shape? m := by
  rw [shape?, putRaw, nodes_modify, shape?]
  by_cases hm : n = m
  · rw [if_pos hm, Option.map_map]
    rfl
  · rw [if_neg hm]

theorem stored?_modify {f : Node → Node} (hf : ∀ node, (f node).properties = node.properties) :
    (p.modify n f).stored? m key = p.stored? m key := by
  rw [stored?, nodes_modify, stored?]
  by_cases hm : n = m
  · rw [if_pos hm]
    cases p.nodes[m]? with
    | none => rfl
    | some node => simp [hf]
  · rw [if_neg hm]

/-- Nodes that are removed keep their properties. -/
theorem stored?_detach : (p.detach up n).stored? m key = p.stored? m key := by
  have hmark : ∀ (ns : List NodeId) (q : Page),
      (q.markRemoved ns).stored? m key = q.stored? m key := by
    intro ns
    induction ns with
    | nil =>
      intro q
      rfl
    | cons k ns ih =>
      intro q
      exact (ih _).trans (stored?_modify fun _ => rfl)
  rw [detach, hmark]
  exact stored?_modify fun _ => rfl

theorem stored?_adopt (hup : up < p.nodes.size) (hm : m < p.nodes.size) :
    (p.adopt up node).stored? m key = p.stored? m key := by
  rw [stored?, nodes_adopt hup, if_neg (Nat.ne_of_lt hm), stored?]
  by_cases h : m = up
  · rw [if_pos h]
    cases p.nodes[m]? <;> rfl
  · rw [if_neg h]

theorem live_of_shape (h : q.shape? n = p.shape? n) (hn : p.live? n = some node) :
    ∃ node', q.live? n = some node' ∧ node'.kind = node.kind ∧ node'.parent = node.parent ∧
      node'.children = node.children := by
  obtain ⟨hnode, hr⟩ := live?_eq_some.mp hn
  rw [shape?, shape?, hnode, Option.map_some] at h
  obtain ⟨node', hnode', hs⟩ := Option.map_eq_some_iff.mp h
  obtain ⟨hk, hp, hc, hr'⟩ := Node.shape_eq_iff.mp hs
  exact ⟨node', live?_eq_some.mpr ⟨hnode', hr'.trans hr⟩, hk, hp, hc⟩

theorem dead_of_shape (h : q.shape? n = p.shape? n) (hn : p.live? n = none) :
    q.live? n = none := by
  cases hq : q.live? n with
  | none => rfl
  | some node =>
    obtain ⟨node', hn', -⟩ := live_of_shape h.symm hq
    rw [hn] at hn'
    cases hn'

theorem kind?_congr (h : q.shape? n = p.shape? n) : q.kind? n = p.kind? n := by
  cases hn : p.live? n with
  | some node =>
    obtain ⟨node', hn', hk, -⟩ := live_of_shape h hn
    rw [kind?_of_live hn', kind?_of_live hn, hk]
  | none => rw [kind?, kind?, hn, dead_of_shape h hn]

theorem parent?_congr (h : q.shape? n = p.shape? n) : q.parent? n = p.parent? n := by
  cases hn : p.live? n with
  | some node =>
    obtain ⟨node', hn', -, hup, -⟩ := live_of_shape h hn
    rw [parent?, parent?, hn', hn, Option.bind_some, Option.bind_some, hup]
  | none => rw [parent?, parent?, hn, dead_of_shape h hn]

theorem elementOf_congr (h : q.shape? n = p.shape? n) : q.elementOf n = p.elementOf n := by
  rw [elementOf, elementOf, kind?_congr h, parent?_congr h]

theorem ancestor_congr (h : ∀ m, q.shape? m = p.shape? m) (levels : Nat) :
    q.ancestor n levels = p.ancestor n levels := by
  induction levels generalizing n with
  | zero => rfl
  | succ levels ih =>
    rw [ancestor, ancestor, parent?_congr (h n)]
    cases p.parent? n with
    | none => rfl
    | some up => exact ih

theorem children_congr (h : q.shape? n = p.shape? n) : q.children n = p.children n := by
  cases hn : p.live? n with
  | some node =>
    obtain ⟨node', hn', -, -, hc⟩ := live_of_shape h hn
    rw [children_of_live hn', children_of_live hn, hc]
  | none => rw [children, children, hn, dead_of_shape h hn]

theorem isText_congr (h : q.shape? n = p.shape? n) : q.isText n = p.isText n := by
  rw [isText, isText, kind?_congr h]

theorem isElement_congr (h : q.shape? n = p.shape? n) : q.isElement n = p.isElement n := by
  rw [isElement, isElement, tag?, tag?, kind?_congr h]

theorem cell_congr (h : q.shape? n = p.shape? n) : q.cell n path = p.cell n path := by
  rw [cell, kind?_congr h, children_congr h, cell]

theorem accepts_congr (h : q.shape? n = p.shape? n) (ha : p.Accepts n path) : q.Accepts n path := by
  obtain ⟨⟨node, hn⟩, hne⟩ := ha
  obtain ⟨node', hn', -⟩ := live_of_shape h hn
  refine ⟨⟨node', hn'⟩, ?_⟩
  rw [isElement_congr h]
  exact hne

theorem direct_congr (hs : ∀ m, m < p.nodes.size → q.shape? m = p.shape? m)
    (hn : n < p.nodes.size)
    (hc : p.isElement n → q.stored? n contentPath = p.stored? n contentPath)
    (hd : p.Direct n path) : q.Direct n path := by
  intro he hpath
  rw [isElement_congr (hs n hn)] at he
  obtain ⟨hnone, t, hchildren, ht⟩ := hd he hpath
  obtain ⟨only, hl, -⟩ := isText_iff.mp ht
  refine ⟨(hc he).trans hnone, t, ?_, ?_⟩
  · rw [children_congr (hs n hn), hchildren]
  · rwa [isText_congr (hs t (lt_size_of_live hl))]

theorem live_of_property? (h : p.property? n path = some value) :
    ∃ node, p.live? n = some node := by
  cases hl : p.live? n with
  | some node => exact ⟨node, rfl⟩
  | none =>
    rw [property?, hl] at h
    cases h

section kinds

variable (hn : p.live? n = some node)

include hn

theorem property?_of_text (hk : node.kind = .text) :
    p.property? n path = p.stored? n (textPath path) := by
  rw [property?, hn, stored?_of_live hn]
  simp only [hk]

theorem property?_of_other (hk : node.kind = .other) : p.property? n path = p.stored? n path := by
  rw [property?, hn, stored?_of_live hn]
  simp only [hk]

theorem property?_of_element {tag : String} (hk : node.kind = .element tag) :
    p.property? n path =
      (p.stored? n path).or (if path = contentPath then some (p.textContent n) else none) := by
  rw [property?, hn, stored?_of_live hn]
  simp only [hk]
  cases Fields.get? path node.properties <;> rfl

theorem setProperty_of_text (hk : node.kind = .text) :
    p.setProperty n path value = .ok (p.putRaw n (textPath path) value) := by
  rw [setProperty, hn]
  simp only [hk]

theorem setProperty_of_other (hk : node.kind = .other) :
    p.setProperty n path value = .ok (p.putRaw n path value) := by
  rw [setProperty, hn]
  simp only [hk]

theorem setProperty_of_element {tag : String} (hk : node.kind = .element tag) :
    p.setProperty n path value =
      if path = contentPath then .ok (p.setContent n value)
      else if path = "" then .error (.noProperty n path)
      else .ok (p.putRaw n path value) := by
  rw [setProperty, hn]
  simp [hk]

theorem isElement_of_live : p.isElement n ↔ ∃ tag, node.kind = .element tag := by
  rw [isElement_iff]
  simp [hn]

theorem cell_of_text (hk : node.kind = .text) : p.cell n path = (n, textPath path) := by
  rw [cell, kind?_of_live hn, hk]

theorem cell_of_other (hk : node.kind = .other) : p.cell n path = (n, path) := by
  rw [cell, kind?_of_live hn, hk]

theorem cell_of_element {tag : String} (hk : node.kind = .element tag) (hp : path ≠ contentPath) :
    p.cell n path = (n, path) := by
  rw [cell, kind?_of_live hn, hk]
  simp only [hp, if_false]

theorem cell_of_content {tag : String} {t : NodeId} (hk : node.kind = .element tag)
    (hc : p.children n = [t]) : p.cell n contentPath = (t, dataPath) := by
  rw [cell, kind?_of_live hn, hk]
  simp only [hc, if_true]

theorem textContent_single {tag : String} {t : NodeId} (hk : node.kind = .element tag)
    (hc : p.children n = [t]) (ht : p.isText t) :
    p.textContent n = (p.stored? t dataPath).getD "" := by
  obtain ⟨only, hl, hkind⟩ := isText_iff.mp ht
  obtain ⟨size, hsize⟩ : ∃ size, p.nodes.size = size + 1 :=
    ⟨p.nodes.size - 1, by have := lt_size_of_live hn; omega⟩
  have htext : p.textUpTo (size + 1) t = ((p.stored? t dataPath).getD "").toList := by
    rw [textUpTo, (live?_eq_some.mp hl).1, stored?_of_live hl]
    simp only [hkind]
  rw [children_of_live hn] at hc
  rw [textContent, hsize, textUpTo, (live?_eq_some.mp hn).1]
  simp only [hk, hc, List.flatMap_cons, List.flatMap_nil, List.append_nil, htext,
    String.ofList_toList]

/-- Reading a direct property reads its cell, but the content of an element is there even if the
cell is not. -/
theorem property?_of_direct (hd : p.Direct n path) :
    p.property? n path = p.stored? (p.cell n path).1 (p.cell n path).2 ∨
      p.property? n path = some ((p.stored? (p.cell n path).1 (p.cell n path).2).getD "") := by
  cases hk : node.kind with
  | text =>
    rw [property?_of_text hn hk, cell_of_text hn hk]
    exact .inl rfl
  | other =>
    rw [property?_of_other hn hk, cell_of_other hn hk]
    exact .inl rfl
  | element tag =>
    rw [property?_of_element hn hk]
    by_cases hpath : path = contentPath
    · obtain ⟨hnone, t, hc, ht⟩ := hd ((isElement_of_live hn).mpr ⟨tag, hk⟩) hpath
      subst hpath
      rw [hnone, Option.none_or, if_pos rfl, cell_of_content hn hk hc,
        textContent_single hn hk hc ht]
      exact .inr rfl
    · rw [cell_of_element hn hk hpath, if_neg hpath, Option.or_none]
      exact .inl rfl

theorem property?_getD_of_direct (hd : p.Direct n path) :
    (p.property? n path).getD "" = (p.stored? (p.cell n path).1 (p.cell n path).2).getD "" := by
  rcases property?_of_direct hn hd with h | h
  · rw [h]
  · rw [h, Option.getD_some]

theorem property?_of_stored (hd : p.Direct n path)
    (hs : p.stored? (p.cell n path).1 (p.cell n path).2 = some value) :
    p.property? n path = some value := by
  rcases property?_of_direct hn hd with h | h
  · rw [h, hs]
  · rw [h, hs, Option.getD_some]

/-- The cell is kept in a live node, and it is not the content of an element. -/
theorem live_cell (hd : p.Direct n path) :
    (∃ node, p.live? (p.cell n path).1 = some node) ∧
      ¬ (p.isElement (p.cell n path).1 ∧ (p.cell n path).2 = contentPath) := by
  cases hk : node.kind with
  | text =>
    rw [cell_of_text hn hk, isElement_of_live hn]
    exact ⟨⟨node, hn⟩, by simp [hk]⟩
  | other =>
    rw [cell_of_other hn hk, isElement_of_live hn]
    exact ⟨⟨node, hn⟩, by simp [hk]⟩
  | element tag =>
    by_cases hpath : path = contentPath
    · obtain ⟨-, t, hc, ht⟩ := hd ((isElement_of_live hn).mpr ⟨tag, hk⟩) hpath
      obtain ⟨only, hl, hkind⟩ := isText_iff.mp ht
      subst hpath
      rw [cell_of_content hn hk hc, isElement_of_live hl]
      exact ⟨⟨only, hl⟩, by simp [hkind]⟩
    · rw [cell_of_element hn hk hpath]
      exact ⟨⟨node, hn⟩, fun h => hpath h.2⟩

end kinds

theorem setProperty_data (h : p.isText n) :
    p.setProperty n dataPath value = .ok (p.putRaw n dataPath value) := by
  obtain ⟨node, hn, hk⟩ := isText_iff.mp h
  exact setProperty_of_text hn hk

theorem setProperty_isOk_iff : (∃ q, p.setProperty n path value = .ok q) ↔ p.Accepts n path := by
  rw [Accepts]
  cases hn : p.live? n with
  | none => simp [setProperty, hn]
  | some node =>
    rw [isElement_of_live hn]
    cases hk : node.kind with
    | text => simp [setProperty_of_text hn hk]
    | other => simp [setProperty_of_other hn hk]
    | element tag =>
      have hcontent : contentPath ≠ "" := by decide
      rw [setProperty_of_element hn hk]
      by_cases hpath : path = contentPath
      · subst hpath
        simp [hcontent]
      · by_cases he : path = ""
        · subst he
          simp [Ne.symm hcontent]
        · simp [hpath, he]

theorem setProperty_of_direct (ha : p.Accepts n path) (hd : p.Direct n path) (value : String) :
    p.setProperty n path value =
      .ok (p.putRaw (p.cell n path).1 (p.cell n path).2 value) := by
  obtain ⟨⟨node, hn⟩, hne⟩ := ha
  cases hk : node.kind with
  | text => rw [setProperty_of_text hn hk, cell_of_text hn hk]
  | other => rw [setProperty_of_other hn hk, cell_of_other hn hk]
  | element tag =>
    have he : p.isElement n := (isElement_of_live hn).mpr ⟨tag, hk⟩
    rw [setProperty_of_element hn hk]
    by_cases hpath : path = contentPath
    · obtain ⟨-, t, hc, ht⟩ := hd he hpath
      subst hpath
      rw [if_pos rfl, cell_of_content hn hk hc, setContent]
      simp only [hc, ht, if_true]
    · rw [if_neg hpath, if_neg (hne he), cell_of_element hn hk hpath]

end Page
end PageOverlay
