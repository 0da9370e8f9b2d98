import PageOverlay.Proofs.Page.Loading

/-!
# Proper nodes

The tag of an element is always a text in upper case, and a text node always has its data. Nodes are
made so, and no change of a page takes that away.
-/

set_option autoImplicit false

namespace PageOverlay

def Node.IsProper (node : Node) : Prop :=
  match node.kind with
  | .element tag => ∃ name, tag = Text.toUpper name
  | .text => ∃ data, Fields.get? Page.dataPath node.properties = some data
  | .other => True

namespace Node

variable {a b : Node}

theorem IsProper.congr (h : a.IsProper) (hk : b.kind = a.kind) (hp : b.properties = a.properties) :
    b.IsProper := by
  rw [IsProper] at h ⊢
  rwa [hk, hp]

theorem IsProper.put (h : a.IsProper) (path value : String) :
    { a with properties := Fields.put path value a.properties }.IsProper := by
  rw [IsProper] at h ⊢
  cases hk : a.kind with
  | element tag =>
    rw [hk] at h
    exact h
  | other => trivial
  | text =>
    rw [hk] at h
    dsimp only at h ⊢
    by_cases hpath : Page.dataPath = path
    · rw [hpath]
      exact ⟨value, Fields.get?_put_self _ _ _⟩
    · rwa [Fields.get?_put_of_ne hpath]

theorem isProper_nodeOf (tag text : Option String) (properties : Fields String) :
    (Page.nodeOf tag text properties).IsProper := by
  cases tag with
  | some tag => exact ⟨tag, rfl⟩
  | none =>
    cases text with
    | some text => exact ⟨text, Fields.get?_put_self _ _ _⟩
    | none => trivial

theorem isProper_element (tag : String) (properties : Fields String) :
    ({ kind := .element (Text.toUpper tag), properties } : Node).IsProper := ⟨tag, rfl⟩

theorem isProper_text (data : String) :
    ({ kind := .text, properties := [(Page.dataPath, data)] } : Node).IsProper :=
  ⟨data, by simp [Fields.get?]⟩

end Node

namespace Page

def AllProper (nodes : Array Node) : Prop :=
  ∀ (n : Nat) (node : Node), nodes[n]? = some node → node.IsProper

theorem AllProper.push {nodes : Array Node} (h : AllProper nodes) {node : Node}
    (hnode : node.IsProper) : AllProper (nodes.push node) := by
  intro n found hn
  rw [Array.getElem?_push] at hn
  split at hn
  · exact Option.some.inj hn ▸ hnode
  · exact h n found hn

theorem AllProper.modify {nodes : Array Node} (h : AllProper nodes) (n : Nat) {f : Node → Node}
    (hf : ∀ node, node.IsProper → (f node).IsProper) : AllProper (nodes.modify n f) := by
  intro m found hm
  rw [Array.getElem?_modify] at hm
  split at hm
  · obtain ⟨node, hnode, rfl⟩ := Option.map_eq_some_iff.mp hm
    exact hf node (h m node hnode)
  · exact h m found hm

mutual

theorem AllProper.load {nodes : Array Node} (h : AllProper nodes) (parent : Option NodeId) :
    ∀ s : NodeSnapshot, AllProper (load parent nodes s)
  | .node tag text properties children => by
    have hnode : { nodeOf tag text properties with parent }.IsProper :=
      (Node.isProper_nodeOf tag text properties).congr rfl rfl
    rw [Page.load]
    exact ((h.push hnode).loadAll nodes.size children).modify _ fun _ hn => hn.congr rfl rfl

theorem AllProper.loadAll {nodes : Array Node} (h : AllProper nodes) (parent : NodeId) :
    ∀ ss : List NodeSnapshot, AllProper (loadAll parent nodes ss).1
  | [] => h
  | s :: rest => by
    rw [Page.loadAll]
    exact (h.load (some parent) s).loadAll parent rest

end

variable {p q : Page} {n up : NodeId}

theorem proper_modify (h : AllProper p.nodes) (n : NodeId) {f : Node → Node}
    (hk : ∀ node, (f node).kind = node.kind) (hp : ∀ node, (f node).properties = node.properties) :
    AllProper (p.modify n f).nodes :=
  AllProper.modify h n fun node hn => hn.congr (hk node) (hp node)

theorem proper_putRaw (h : AllProper p.nodes) (n : NodeId) (path value : String) :
    AllProper (p.putRaw n path value).nodes :=
  AllProper.modify h n fun _ hn => hn.put path value

theorem proper_markRemoved (h : AllProper p.nodes) (ns : List NodeId) :
    AllProper (p.markRemoved ns).nodes := by
  induction ns generalizing p with
  | nil => exact h
  | cons n ns ih => exact ih (proper_modify h n (fun _ => rfl) fun _ => rfl)

theorem proper_detach (h : AllProper p.nodes) (up n : NodeId) :
    AllProper (p.detach up n).nodes := by
  have hunlink : AllProper (p.unlink up n).nodes := proper_modify h up (fun _ => rfl) fun _ => rfl
  exact proper_markRemoved hunlink _

theorem proper_adopt (h : AllProper p.nodes) {node : Node} (hnode : node.IsProper) (up : NodeId) :
    AllProper (p.adopt up node).nodes := by
  have hpushed : AllProper (p.nodes.push { node with parent := some up }) :=
    h.push (hnode.congr rfl rfl)
  exact AllProper.modify hpushed up fun _ hn => hn.congr rfl rfl

theorem proper_appendNode (h : AllProper p.nodes) {node : Node} (hnode : node.IsProper)
    (hq : p.appendNode up node = .ok (n, q)) : AllProper q.nodes := by
  rw [appendNode] at hq
  split at hq
  · cases hq
  · cases hq
    exact proper_adopt h hnode up

theorem proper_replaceContent (h : AllProper p.nodes) (n : NodeId) (value : String) :
    AllProper (p.replaceContent n value).nodes := by
  have hclear : ∀ (cs : List NodeId) (q : Page), AllProper q.nodes →
      AllProper (cs.foldl (fun q c => q.detach n c) q).nodes := by
    intro cs
    induction cs with
    | nil => exact fun _ hq => hq
    | cons c cs ih => exact fun q hq => ih _ (proper_detach hq n c)
  exact proper_adopt (hclear _ p h) (Node.isProper_text value) n

theorem proper_setProperty (h : AllProper p.nodes) {path value : String}
    (hq : p.setProperty n path value = .ok q) : AllProper q.nodes := by
  have hcontent : AllProper (p.setContent n value).nodes := by
    rw [setContent]
    split
    · split
      · exact proper_putRaw h _ _ _
      · exact proper_replaceContent h n value
    · exact proper_replaceContent h n value
  rw [setProperty] at hq
  split at hq
  · cases hq
  · split at hq
    · cases hq
      exact proper_putRaw h _ _ _
    · cases hq
      exact proper_putRaw h _ _ _
    · split at hq
      · cases hq
        exact hcontent
      · split at hq
        · cases hq
        · cases hq
          exact proper_putRaw h _ _ _

theorem proper_remove (h : AllProper p.nodes) (hq : p.remove n = .ok q) : AllProper q.nodes := by
  rw [remove] at hq
  split at hq
  · cases hq
  · split at hq
    · cases hq
    · cases hq
      exact proper_detach h _ _

theorem Reachable.proper (h : p.Reachable) : AllProper p.nodes := by
  have hempty : AllProper #[] := by
    intro n node hn
    simp at hn
  induction h with
  | blank location =>
    have hroot : ({ kind := .element "HTML" } : Node).IsProper := ⟨"html", by decide⟩
    exact hempty.push hroot
  | scratch location value =>
    have hroot : ({ kind := .other, properties := [(scratchPath, value)] } : Node).IsProper :=
      trivial
    exact hempty.push hroot
  | ofSnapshot s => exact hempty.load none s.root
  | appendElement _ h ih => exact proper_appendNode ih (Node.isProper_element _ _) h
  | appendText _ h ih => exact proper_appendNode ih (Node.isProper_text _) h
  | setProperty _ h ih => exact proper_setProperty ih h
  | remove _ h ih => exact proper_remove ih h
  | setLocation _ location ih => exact ih

end Page
end PageOverlay
