import PageOverlay.Proofs.Change.SideBySide
import PageOverlay.Proofs.Command.Building
import PageOverlay.Proofs.Page.ReadingBack
import PageOverlay.Proofs.Page.Walking
import PageOverlay.Proofs.Selector.Values
import PageOverlay.Proofs.Sheet.Quoting

/-!
# Links that are replaced

The command that replaces a link looks for it with a selector that it writes itself. It puts a
backslash before each double quote of the address, but a selector knows no escapes. So the links to
an address are found if and only if there is no double quote in it.
-/

set_option autoImplicit false

namespace PageOverlay

namespace Page

structure SetsEach (p q : Page) (ns : List NodeId) (path value : String) : Prop where
  location : q.location = p.location
  shape : ∀ m, q.shape? m = p.shape? m
  reads : ∀ m other, q.property? m other =
    if m ∈ ns ∧ other = path then some value else p.property? m other

variable {p q r : Page} {n : NodeId} {ns : List NodeId} {path value : String}

theorem SetsEach.nil (p : Page) (path value : String) : SetsEach p p [] path value :=
  ⟨rfl, fun _ => rfl, fun _ _ => by simp⟩

theorem SetsEach.cons_same (h : SetsEach p q ns path value)
    (hsame : p.property? n path = some value) : SetsEach p q (n :: ns) path value where
  location := h.location
  shape := h.shape
  reads m other := by
    rw [h.reads]
    by_cases hm : m ∈ ns ∧ other = path
    · rw [if_pos hm, if_pos ⟨List.mem_cons_of_mem n hm.1, hm.2⟩]
    · rw [if_neg hm]
      split
      · next hcons =>
        obtain rfl := (List.mem_cons.mp hcons.1).resolve_right fun hmem => hm ⟨hmem, hcons.2⟩
        rw [hcons.2, hsame]
      · rfl

theorem SetsEach.cons (hr : SetsEach p r [n] path value) (h : SetsEach r q ns path value) :
    SetsEach p q (n :: ns) path value where
  location := h.location.trans hr.location
  shape m := (h.shape m).trans (hr.shape m)
  reads m other := by
    rw [h.reads, hr.reads]
    by_cases hother : other = path <;> by_cases hm : m ∈ ns <;> simp [hother, hm]

theorem WellFormed.setsEach_setProperty (hw : WellFormed p) (he : p.isElement n)
    (hc : path ≠ contentPath) (h : p.setProperty n path value = .ok q) :
    SetsEach p q [n] path value := by
  obtain ⟨node, tag, hn, hk⟩ := isElement_iff.mp he
  have hcontent : ¬ (p.isElement n ∧ path = contentPath) := fun h => hc h.2
  have hsets := sets_setProperty h hcontent
  have hcell : p.cell n path = (n, path) := cell_of_element hn hk hc
  refine ⟨hsets.location, hsets.shape, fun m other => ?_⟩
  by_cases hm : m = n ∧ other = path
  · obtain ⟨rfl, rfl⟩ := hm
    rw [if_pos ⟨List.mem_singleton_self m, rfl⟩]
    exact (property?_setProperty hw h).2 fun hhides => hc hhides.2.1
  · rw [if_neg (by simpa using hm)]
    refine property?_of_sets hw hn hcontent hsets ?_ ?_
    · rintro ⟨rfl, hsame⟩
      rw [hcell] at hsame
      by_cases hother : other = contentPath
      · rw [hother, cell, kind?_of_live hn, hk] at hsame
        simp only [if_true] at hsame
        split at hsame
        · next t hchildren =>
          -- a child comes after its parent
          have hlt := (hw.child (hchildren ▸ List.mem_singleton_self t)).1
          obtain ⟨rfl, -⟩ := Prod.mk.inj hsame
          exact Nat.lt_irrefl _ hlt
        · exact hc (congrArg Prod.snd hsame).symm
      · rw [cell_of_element hn hk hother] at hsame
        exact hm ⟨rfl, congrArg Prod.snd hsame⟩
    · exact fun hderives => not_isElement_of_isText hderives.text he

end Page

namespace Change

open Page (SetsEach)

variable {w : World} {ns : List NodeId} {path value : String}

theorem run_recordAll_elements (hw : w.page.WellFormed) (he : ∀ n ∈ ns, w.page.isElement n)
    (hn : ns.Nodup) (hp : path ≠ "") (hc : path ≠ Page.contentPath)
    (hv : ∀ n ∈ ns, w.page.property? n path = none → value ≠ "") :
    ∃ q, (recordAll path value ns).run w =
        (.ok (ns.filterMap fun n => undo? w.page n path value), { w with page := q }) ∧
      SetsEach w.page q ns path value := by
  induction ns generalizing w with
  | nil => exact ⟨w.page, rfl, SetsEach.nil _ _ _⟩
  | cons n ns ih =>
    obtain ⟨hne, hrest⟩ := List.forall_mem_cons.mp he
    obtain ⟨hnot, hnodup⟩ := List.nodup_cons.mp hn
    obtain ⟨hvn, hvrest⟩ := List.forall_mem_cons.mp hv
    by_cases hsame : (w.page.property? n path).getD "" = value
    · have hread : w.page.property? n path = some value := by
        cases hread : w.page.property? n path with
        | none => rw [hread] at hsame; exact absurd hsame.symm (hvn hread)
        | some before => rw [hread] at hsame; exact congrArg some hsame
      obtain ⟨q, hrun, hsets⟩ := ih hw hrest hnodup hvrest
      refine ⟨q, ?_, hsets.cons_same hread⟩
      rw [recordAll, run_bind, run_record_of_eq hsame, continueWith_ok, run_bind, hrun,
        List.filterMap_cons_none (by rw [undo?, if_pos hsame])]
      rfl
    · obtain ⟨node, tag, hlive, -⟩ := Page.isElement_iff.mp hne
      have haccepts : w.page.Accepts n path := ⟨⟨node, hlive⟩, fun _ => hp⟩
      obtain ⟨r, hset⟩ : ∃ r, w.page.setProperty n path value = .ok r :=
        Page.setProperty_isOk_iff.mpr haccepts
      have hstep := hw.setsEach_setProperty hne hc hset
      have hread : ∀ m ∈ ns, r.property? m path = w.page.property? m path := by
        intro m hm
        rw [hstep.reads, if_neg]
        rintro ⟨hmem, -⟩
        obtain rfl := List.mem_singleton.mp hmem
        exact hnot hm
      obtain ⟨q, hrun, hsets⟩ := @ih { w with page := r } (hw.setProperty hset)
        (fun m hm => (Page.isElement_congr (hstep.shape m)).trans (hrest m hm)) hnodup
        fun m hm hnone => hvrest m hm ((hread m hm).symm.trans hnone)
      refine ⟨q, ?_, hstep.cons hsets⟩
      have hundo : undo? w.page n path value =
          some (.property n path ((w.page.property? n path).getD "") value) := by
        rw [undo?, if_neg hsame]
      have hsameUndo : ∀ m ∈ ns, undo? r m path value = undo? w.page m path value := by
        intro m hm
        rw [undo?, undo?, hread m hm]
      rw [recordAll, run_bind, run_record_of_set hsame hset, continueWith_ok, run_bind, hrun,
        List.filterMap_cons_some (f := fun m => undo? w.page m path value) hundo,
        List.filterMap_congr hsameUndo]
      rfl

end Change

variable {p : Page} {n : NodeId} {w : World} {chains : List Chain} {path value : String}

theorem Chain.isElement_of_accepts {chain : Chain} (h : chain.accepts p n = true) :
    p.isElement n := by
  cases chain with
  | one c => exact (Compound.accepts_iff.mp h).element
  | step before op c =>
    cases op <;>
    · rw [accepts, Bool.and_eq_true] at h
      exact (Compound.accepts_iff.mp h.1).element

theorem isElement_of_mem_query (h : n ∈ p.query (.css chains)) : p.isElement n := by
  obtain ⟨chain, -, hchain⟩ := List.any_eq_true.mp (List.mem_filter.mp h).2
  exact chain.isElement_of_accepts hchain

theorem run_querySelector (hw : w.page.WellFormed) (hp : path ≠ "") (hc : path ≠ Page.contentPath)
    (hv : ∀ m ∈ w.page.query (.css chains), w.page.property? m path = none → value ≠ "")
    (n : NodeId) (place : String) :
    ∃ q, ((Command.action (.querySelector (.css chains) path value)).apply (.node n place)).run w =
        (.ok (Action.several ((w.page.query (.css chains)).filterMap fun m =>
          Change.undo? w.page m path value)), { w with page := q }) ∧
      w.page.SetsEach q (w.page.query (.css chains)) path value := by
  obtain ⟨q, hrun, hsets⟩ := Change.run_recordAll_elements hw
    (fun m hm => isElement_of_mem_query hm) ((hw.nodup_descendants _).filter _) hp hc hv
  refine ⟨q, ?_, hsets⟩
  rw [Command.apply, Action.apply, Action.applyNode, Change.run_page_bind]
  simp only
  rw [Change.run_bind, hrun]
  rfl

def hrefPath : String := "href"

def Page.linksTo (p : Page) (href : String) : List NodeId :=
  (p.descendants root).filter fun n => p.tag? n == some "A" && p.property? n hrefPath == some href

theorem Page.WellFormed.mem_linksTo (hw : p.WellFormed) {href : String} :
    n ∈ p.linksTo href ↔ p.tag? n = some "A" ∧ p.property? n hrefPath = some href := by
  rw [linksTo, List.mem_filter, hw.mem_descendants_root, Bool.and_eq_true, beq_iff_eq, beq_iff_eq,
    and_iff_right_iff_imp]
  exact fun h => live_of_property? h.2

/-- Wherever it is applied, the command sets the address of all links to the one on the left, and
of nothing else, and tells of each of them unless they have the new address already. -/
def ReplacesLinks (command : Command) (href value : String) : Prop :=
  ∀ (w : World) (n : NodeId) (path : String), w.page.Reachable →
    ∃ q, (command.apply (.node n path)).run w =
        (.ok (Action.several (if href = value then []
          else (w.page.linksTo href).map fun m => .property m hrefPath href value)),
          { w with page := q }) ∧
      w.page.SetsEach q (w.page.linksTo href) hrefPath value

def linkCall (href : List Char) : List Char :=
  Sheet.callText "replaceLink".toList (Sheet.quoted href)

variable {h : List Char}

theorem tryBuild_linkCall (b : Builder) (value : String) (hne : h ≠ []) (hline : '\n' ∉ h) :
    b.tryBuild value (linkCall h) =
      (Invocation.readSelector (Verb.linkSelector h)).map fun s =>
        .action (.querySelector s hrefPath value) := by
  let entry : Entry := {
    name := "replaceLink", signature := ⟨[1], some 2⟩, deprecated := true, verb := .replaceLink }
  have hname : IsName "replaceLink".toList := .intro (by decide) (by decide)
  have hsplit : Sheet.splitParameters (Sheet.quoted h) = .ok [h] := by
    have hall := Sheet.QuotedParameter.splitParameters_writeAll [{ text := h }]
    simpa [Sheet.QuotedParameter.writeAll, Sheet.QuotedParameter.write, Text.joinWith] using hall
  have hcalls : b.Calls (linkCall h) entry [h] :=
    Builder.calls_of_isName hname (Sheet.newline_not_mem_quoted hline) hsplit rfl
  have hhref : (⟨entry.name, [h], value⟩ : Invocation).required 0 "href" = .ok h := by
    obtain ⟨c, cs, rfl⟩ := List.exists_cons_of_ne_nil hne
    rfl
  rw [Builder.tryBuild_of_calls hcalls]
  simp only [Builder.construct, entry, Verb.wrapsFrom, Verb.command, Verb.action]
  rw [hhref]
  change Except.map Command.action (Invocation.readSelector (Verb.linkSelector h) >>= fun s =>
    pure (.querySelector s "href" value)) = _
  cases Invocation.readSelector (Verb.linkSelector h) <;> rfl

namespace Selector

def linkEscaped (c : Char) : List Char := if c = '"' then ['\\', '"'] else [c]

theorem toList_linkSelector (h : List Char) : (Verb.linkSelector h).toList =
    "a[href".toList ++ '=' :: ('"' :: (h.flatMap linkEscaped ++ ['"']) ++ [']']) := by
  have hopen : "a[href=\"".toList = "a[href".toList ++ ['=', '"'] := by decide
  have hclose : "\"]".toList = ['"', ']'] := by decide
  change (String.ofList ("a[href=\"".toList ++ h.flatMap linkEscaped ++ "\"]".toList)).toList = _
  rw [String.toList_ofList, hopen, hclose]
  simp only [List.append_assoc, List.cons_append, List.nil_append]

theorem flatMap_linkEscaped (h : List Char) (hquote : '"' ∉ h) : h.flatMap linkEscaped = h := by
  induction h with
  | nil => rfl
  | cons c h ih =>
    obtain ⟨hc, hrest⟩ : '"' ≠ c ∧ '"' ∉ h := by simpa using hquote
    rw [List.flatMap_cons, linkEscaped, if_neg hc.symm, ih hrest]
    rfl

theorem length_le_linkEscaped (h : List Char) : h.length ≤ (h.flatMap linkEscaped).length := by
  induction h with
  | nil => exact Nat.le_refl _
  | cons c h ih =>
    rw [List.flatMap_cons, List.length_append, List.length_cons, linkEscaped]
    split <;> simp only [List.length_cons, List.length_nil] <;> omega

theorem count_linkEscaped {c : Char} (hc : c ∉ ['\\', '"']) (h : List Char) :
    (h.flatMap linkEscaped).count c = h.count c := by
  obtain ⟨hescape, hquote⟩ : c ≠ '\\' ∧ c ≠ '"' := by simpa using hc
  induction h with
  | nil => rfl
  | cons d h ih =>
    rw [List.flatMap_cons, List.count_append, ih, linkEscaped]
    split
    · next hd => simp [hd, hescape.symm, hquote.symm]
    · rw [List.count_cons (l := h), List.count_singleton, Nat.add_comm]

def linkCompound (href : String) : Compound :=
  { tag := some "A", attributes := [⟨hrefPath, .equals href⟩] }

def linkFilter (h : List Char) : List Char :=
  '[' :: ("href".toList ++ (['='] ++ '"' :: (h ++ ['"', ']'])))

theorem toList_linkSelector_plain (hquote : '"' ∉ h) :
    (Verb.linkSelector h).toList = 'a' :: linkFilter h := by
  rw [toList_linkSelector, flatMap_linkEscaped h hquote]
  simp [linkFilter]

theorem writable_link (hquote : '"' ∉ h) :
    AttributeFilter.Writable ⟨hrefPath, .equals (String.ofList h)⟩ := by
  have hname : IsNameOf isAttributeNameChar hrefPath := ⟨by decide, by decide⟩
  refine ⟨hname, fun v hv => .inl ?_⟩
  obtain rfl := Option.some.inj hv
  rwa [String.toList_ofList]

theorem linkFilter_written (hquote : '"' ∉ h) :
    AttributeFilter.WrittenAs ⟨hrefPath, .equals (String.ofList h)⟩ (linkFilter h) :=
  ⟨'"', .inl rfl, by rwa [String.toList_ofList], by rw [String.toList_ofList]; rfl⟩

theorem tag_linkFilter (h : List Char) : tag ('a' :: linkFilter h) = (some "A", linkFilter h) := by
  have hname : (linkFilter h).takeWhile isNameChar = [] := rfl
  have hupper : String.ofList (Text.upper ['a']) = "A" := by decide +kernel
  have halpha : 'a'.isAlpha = true := by decide
  rw [tag_cons (by decide), hname, halpha, if_pos rfl, hupper]
  rfl

theorem compound_linkFilter (hquote : '"' ∉ h) :
    compound ('a' :: linkFilter h) = .ok (linkCompound (String.ofList h), []) := by
  have hgrows : Grows { tag := some "A" } [linkFilter h] (linkCompound (String.ofList h)) :=
    grows_filters (List.forall_mem_singleton.mpr (writable_link hquote))
      (.cons (linkFilter_written hquote) .nil) { tag := some "A" }
  have hends : Ends [] := by simp [Ends]
  have hone : [linkFilter h].length ≤ (linkFilter h).length + 1 := by simp
  have hparts := parts_of_grows hgrows hends hone
  rw [List.flatten_singleton, List.append_nil] at hparts
  rw [compound, tag_linkFilter]
  exact hparts

theorem intact_linkFilter (hquote : '"' ∉ h) : Intact ('a' :: linkFilter h) := by
  have hname : Intact ['a'] := intact_name (by decide) rfl
  have hnothing : Uncut 0 [] := fun _ => rfl
  change Intact (['a'] ++ ([] ++ linkFilter h))
  exact hname.append hnothing (intact_filter (writable_link hquote) (linkFilter_written hquote))

theorem alternative_linkFilter (hquote : '"' ∉ h) :
    alternative ('a' :: linkFilter h) = .ok (.one (linkCompound (String.ofList h))) := by
  have hreads : Reads (linkCompound (String.ofList h)) ('a' :: linkFilter h) [] :=
    reads_of_rest (by rw [List.append_nil, compound_linkFilter hquote]) rfl (by decide) (by decide)
  have hlaid := @Laid.compound [] _ _ _ _ rfl hreads (.blanks rfl)
  rw [List.nil_append, List.append_nil] at hlaid
  exact alternative_ok_iff.mpr ⟨_, ⟨hlaid, _, rfl⟩, rfl⟩

theorem parse_linkSelector (hquote : '"' ∉ h) :
    parse (Verb.linkSelector h) = .ok (.css [.one (linkCompound (String.ofList h))]) := by
  have hintact := intact_linkFilter hquote
  have huncut := hintact.uncut []
  rw [List.append_nil] at huncut
  have hpieces : pieces (Verb.linkSelector h) = ['a' :: linkFilter h] := by
    rw [pieces, toList_linkSelector_plain hquote, hintact.trim, huncut, splitAlternatives,
      foldr_consHead, List.append_nil, List.map_singleton, hintact.trim]
  rw [parse_ok_iff, hpieces, toList_linkSelector_plain hquote, hintact.trim]
  exact ⟨List.cons_ne_nil _ _, _, rfl, .cons (alternative_linkFilter hquote) .nil⟩

theorem query_linkCompound (p : Page) (href : String) :
    p.query (.css [.one (linkCompound href)]) = p.linksTo href := by
  refine List.filter_congr fun n _ => ?_
  rw [Bool.eq_iff_iff, Bool.and_eq_true, beq_iff_eq, beq_iff_eq, accepts, List.any_cons,
    List.any_nil, Bool.or_false, Chain.accepts, Compound.accepts_iff]
  constructor
  · intro hholds
    obtain ⟨actual, hactual, hequal⟩ := hholds.attributes _ (List.mem_singleton_self _)
    exact ⟨hholds.tag _ rfl, hactual.trans (congrArg some hequal)⟩
  · rintro ⟨htag, hread⟩
    refine ⟨by rw [Page.isElement, htag]; rfl, fun t ht => ?_, (fun _ hid => by cases hid),
      by simp [linkCompound], ?_⟩
    · obtain rfl := Option.some.inj ht
      exact htag
    · exact List.forall_mem_singleton.mpr ⟨href, hread, rfl⟩

theorem count_linkSelector {c : Char} (hc : c ∉ ['\\', '"']) (h : List Char) :
    (Verb.linkSelector h).toList.count c = "a[href=]".toList.count c + h.count c := by
  have hquote : '"' ≠ c := by
    rintro rfl
    exact hc (by decide)
  have hopen : "a[href=]".toList = "a[href".toList ++ ['=', ']'] := by decide
  rw [toList_linkSelector, hopen]
  simp only [List.count_append, List.count_cons, List.count_nil, count_linkEscaped hc,
    beq_eq_false_iff_ne.mpr hquote, Bool.false_eq_true, if_false]
  omega

theorem not_mem_of_isBlank {c : Char} (hc : Text.isBlank c = true) :
    c ∉ ['\\', '"'] ∧ c ∉ "a[href=]".toList := by
  have hnone : (['\\', '"'] ++ "a[href=]".toList).all (fun d => !Text.isBlank d) = true := by
    decide
  have hnot : c ∉ ['\\', '"'] ++ "a[href=]".toList := fun hmem => by
    simpa [hc] using List.all_eq_true.mp hnone c hmem
  exact ⟨fun hmem => hnot (List.mem_append_left _ hmem),
    fun hmem => hnot (List.mem_append_right _ hmem)⟩

section around

variable {front back : List Char} {a z c : Char}

/-- Nothing is left of the address for what stands around it. -/
theorem count_around (htext : front ++ a :: (h ++ [z]) ++ back = (Verb.linkSelector h).toList)
    (hc : c ∉ ['\\', '"']) :
    front.count c + [a].count c + [z].count c + back.count c = "a[href=]".toList.count c := by
  have hcount := count_linkSelector hc h
  rw [← htext] at hcount
  simp only [List.count_append, List.count_cons, List.count_nil] at hcount ⊢
  omega

theorem not_around (htext : front ++ a :: (h ++ [z]) ++ back = (Verb.linkSelector h).toList)
    (haround : a = c ∨ z = c) (hc : c ∉ ['\\', '"']) (hnone : c ∉ "a[href=]".toList) : False := by
  have hone : 0 < [a].count c + [z].count c := by
    rcases haround with rfl | rfl <;> rw [List.count_singleton_self] <;> omega
  have hsum := count_around htext hc
  rw [List.count_eq_zero.mpr hnone] at hsum
  omega

theorem not_between
    (htext : front ++ '=' :: (h ++ [']']) ++ back = (Verb.linkSelector h).toList) : False := by
  have hequals : [']'].count '=' = 0 ∧ ['='].count '=' = 1 ∧ "a[href=]".toList.count '=' = 1 := by
    decide
  have hclose : ['='].count ']' = 0 ∧ [']'].count ']' = 1 ∧ "a[href=]".toList.count ']' = 1 := by
    decide
  have hfirst := count_around htext (c := '=') (by decide)
  have hlast := count_around htext (c := ']') (by decide)
  have hfront : '=' ∉ front := List.count_eq_zero.mp (by omega)
  have hback : ']' ∉ back := List.count_eq_zero.mp (by omega)
  have hcut : Text.cutAtFirst? '=' (Verb.linkSelector h).toList = some (front, h ++ ']' :: back) :=
    Text.cutAtFirst?_eq_some_iff.mpr ⟨hfront, by rw [← htext]; simp⟩
  rw [toList_linkSelector, Text.cutAtFirst?_of_first (by decide)] at hcut
  obtain ⟨-, hrest⟩ := Prod.mk.inj (Option.some.inj hcut)
  have hcut : Text.cutAtLast? ']' (h ++ ']' :: back) = some (h, back) :=
    Text.cutAtLast?_eq_some_iff.mpr ⟨hback, rfl⟩
  rw [← hrest, Text.cutAtLast?_eq_some_iff.mpr ⟨List.not_mem_nil, rfl⟩] at hcut
  obtain ⟨hvalue, -⟩ := Prod.mk.inj (Option.some.inj hcut)
  have hlength := congrArg List.length hvalue
  have hle := length_le_linkEscaped h
  simp only [List.length_cons, List.length_append, List.length_nil] at hlength
  omega

end around

/-- With a double quote the address does not stand in the selector as a value. -/
theorem not_standsIn_linkSelector (hquote : '"' ∈ h) :
    ¬ StandsIn h (Verb.linkSelector h).toList := by
  rintro ⟨a, z, hdelimits, front, back, htext⟩
  have hblank {c : Char} (haround : a = c ∨ z = c) (hc : Text.isBlank c = true) : False :=
    not_around htext haround (not_mem_of_isBlank hc).1 (not_mem_of_isBlank hc).2
  cases hdelimits with
  | quotes hq hnot =>
    rcases hq with rfl | rfl
    · exact hnot hquote
    · exact not_around htext (.inl rfl) (by decide) (by decide)
  | bare ha hz =>
    rcases ha with rfl | ha
    · rcases hz with rfl | hz
      · exact not_between htext
      · exact hblank (.inr rfl) hz
    · exact hblank (.inl rfl) ha

end Selector

def linkPage (href : String) : Page :=
  { location := ""
    nodes := #[{ kind := .element "HTML", children := [1] },
      { kind := .element "A", parent := some 0, properties := [(hrefPath, href)] }] }

theorem reachable_linkPage (href : String) : (linkPage href).Reachable := by
  have hupper : Text.toUpper "A" = "A" := by decide +kernel
  have hmake : (Page.blank "").appendElement 0 "A" [(hrefPath, href)] = .ok (1, linkPage href) := by
    rw [Page.appendElement, hupper]
    rfl
  exact .appendElement (.blank "") hmake

theorem property?_linkPage (href : String) : (linkPage href).property? 1 hrefPath = some href := rfl

theorem doubles_linkPage (href : String) :
    (linkPage href).Doubles (linkPage (doubled href)) hrefPath href where
  tag n := by
    match n with
    | 0 | 1 | _ + 2 => rfl
  parent n := by
    match n with
    | 0 | 1 | _ + 2 => rfl
  size := rfl
  others n path hpath := by
    match n with
    | 0 | _ + 2 => rfl
    | 1 =>
      have hread (href : String) : (linkPage href).property? 1 path =
          if path = Page.contentPath then some "" else none := by
        have hlive : (linkPage href).live? 1 = some
            { kind := .element "A", parent := some 0, properties := [(hrefPath, href)] } := rfl
        have hstored : (linkPage href).stored? 1 path = none := if_neg hpath.symm
        rw [Page.property?_of_element hlive rfl, hstored, Option.none_or]
        rfl
      rw [hread, hread]
  value n actual h := by
    match n with
    | 0 | _ + 2 => cases h
    | 1 => exact ⟨(Option.some.inj h).symm, rfl⟩

theorem mem_linksTo_linkPage {href other : String} :
    1 ∈ (linkPage other).linksTo href ↔ other = href := by
  rw [(reachable_linkPage other).wellFormed.mem_linksTo, property?_linkPage]
  exact ⟨fun h => Option.some.inj h.2, fun h => ⟨rfl, congrArg some h⟩⟩

theorem mem_query_linkPage {href : String} {s : Selector} :
    1 ∈ (linkPage href).query s ↔ s.accepts (linkPage href) 1 = true := by
  rw [Page.query, List.mem_filter, (reachable_linkPage href).wellFormed.mem_descendants_root]
  exact and_iff_right ⟨_, rfl⟩

theorem accepts_linkPage_iff {href other value : String} (hvalue : value ≠ "")
    (hother : value ≠ other)
    (h : ReplacesLinks (.action (.querySelector (.css chains) hrefPath value)) href value) :
    (Selector.css chains).accepts (linkPage other) 1 = true ↔ other = href := by
  let w : World := { page := linkPage other }
  have hw : w.page.Reachable := reachable_linkPage other
  obtain ⟨q, hrun, hsets⟩ := run_querySelector hw.wellFormed (show hrefPath ≠ "" by decide)
    (by decide) (fun m (_ : m ∈ w.page.query (.css chains)) _ => hvalue) 0 ""
  obtain ⟨r, hrun', hsets'⟩ := h w 0 "" hw
  obtain rfl : q = r := by
    rw [hrun] at hrun'
    exact congrArg World.page (Prod.mk.inj hrun').2
  have hread := (hsets.reads 1 hrefPath).symm.trans (hsets'.reads 1 hrefPath)
  have hbefore : w.page.property? 1 hrefPath = some other := rfl
  have hne : some value ≠ some other := fun he => hother (Option.some.inj he)
  rw [← mem_query_linkPage, ← mem_linksTo_linkPage]
  simp only [hbefore, and_true] at hread
  constructor <;> intro hmem <;> by_contra hnot
  · rw [if_pos hmem, if_neg hnot] at hread
    exact hne hread
  · rw [if_neg hnot, if_pos hmem] at hread
    exact hne hread.symm

/-- A selector that finds the links to an address compares with this very address, for it takes a
link to the address and leaves a link to its double. -/
theorem exists_comparison {href value : String} (hvalue : (doubled href).length < value.length)
    (h : ReplacesLinks (.action (.querySelector (.css chains) hrefPath value)) href value)
    (hne : href ≠ "") :
    ∃ chain ∈ chains, ∃ c ∈ chain.compounds, ⟨hrefPath, .equals href⟩ ∈ c.attributes := by
  have hlength := length_doubled href
  have hother {s : String} (hs : s.length < value.length) : value ≠ s := by
    rintro rfl
    exact Nat.lt_irrefl _ hs
  have hpos : 0 < href.length :=
    Nat.pos_of_ne_zero fun hzero => hne (String.length_eq_zero_iff.mp hzero)
  have hempty : value ≠ "" := hother (Nat.zero_lt_of_lt hvalue)
  have htakes := (accepts_linkPage_iff hempty (hother (by omega)) h).mpr (Eq.refl href)
  have hleaves : (Selector.css chains).accepts (linkPage (doubled href)) 1 ≠ true := by
    intro haccepts
    rw [(accepts_linkPage_iff hempty (hother hvalue) h).mp haccepts] at hlength
    omega
  by_contra hnone
  refine hleaves
    (Selector.accepts_doubled htakes (doubles_linkPage href) (by decide) (by decide) ?_)
  exact fun chain hchain c hc hmem => hnone ⟨chain, hchain, c, hc, hmem⟩

theorem replacesLinks_linkCompound (href value : String) :
    ReplacesLinks
      (.action (.querySelector (.css [.one (Selector.linkCompound href)]) hrefPath value))
      href value := by
  intro w n path hw
  have hread : ∀ m ∈ w.page.linksTo href, w.page.property? m hrefPath = some href :=
    fun m hm => (hw.wellFormed.mem_linksTo.mp hm).2
  have hundo : ∀ m ∈ w.page.linksTo href, Change.undo? w.page m hrefPath value =
      if href = value then none else some (.property m hrefPath href value) := by
    intro m hm
    rw [Change.undo?, hread m hm]
    rfl
  have hquery := Selector.query_linkCompound w.page href
  have hpresent : ∀ m ∈ w.page.query (.css [.one (Selector.linkCompound href)]),
      w.page.property? m hrefPath = none → value ≠ "" := by
    intro m hm hnone
    rw [hread m (hquery ▸ hm)] at hnone
    cases hnone
  obtain ⟨q, hrun, hsets⟩ :=
    run_querySelector hw.wellFormed (by decide) (by decide) hpresent n path
  rw [hquery] at hrun hsets
  refine ⟨q, ?_, hsets⟩
  rw [hrun, List.filterMap_congr hundo]
  split
  · rw [List.filterMap_none]
  · rw [List.filterMap_eq_map']

/-- The command of a call finds the links to the address in every page and sets them to every value,
if and only if no double quote is in the address. -/
theorem replaceLink_iff (b : Builder) {h : List Char} (hne : h ≠ []) (hline : '\n' ∉ h) :
    (∀ value, ∃ command, b.tryBuild value (linkCall h) = .ok command ∧
      ReplacesLinks command (String.ofList h) value) ↔ '"' ∉ h := by
  constructor
  · intro hall hquote
    obtain ⟨href, rfl⟩ : ∃ href : String, h = href.toList := ⟨String.ofList h, by simp⟩
    obtain ⟨command, hbuild, hreplaces⟩ := hall (doubled href ++ " ")
    rw [String.ofList_toList] at hreplaces
    rw [tryBuild_linkCall b _ hne hline, Invocation.readSelector] at hbuild
    cases hparse : Selector.parse (Verb.linkSelector href.toList) with
    | error e => rw [hparse] at hbuild; cases hbuild
    | ok s =>
      rw [hparse] at hbuild
      obtain rfl := Except.ok.inj hbuild
      obtain ⟨-, chains, rfl, -⟩ := Selector.parse_ok_iff.mp hparse
      have hlonger : (doubled href).length < (doubled href ++ " ").length := by
        rw [String.length_append]
        exact Nat.lt_succ_self _
      obtain ⟨chain, hchain, c, hc, hmem⟩ := exists_comparison hlonger hreplaces
        fun hempty => hne (by rw [hempty]; rfl)
      exact Selector.not_standsIn_linkSelector hquote
        (Selector.gives_of_parse hparse chain hchain c hc _ hmem href rfl)
  · intro hquote value
    have hbuild := tryBuild_linkCall b value hne hline
    rw [Invocation.readSelector, Selector.parse_linkSelector hquote] at hbuild
    exact ⟨_, hbuild, replacesLinks_linkCompound (String.ofList h) value⟩

/-- Commas, brackets, single quotes and backslashes all stand for themselves. -/
theorem replaceLink_iff_marks :
    ∃ command, ({} : Builder).tryBuild "x" (linkCall "b], [c='d' \\".toList) = .ok command ∧
      ReplacesLinks command "b], [c='d' \\" "x" :=
  (replaceLink_iff {} (by decide) (by decide)).mpr (by decide) "x"

/-- The only link of the page has the address, and it is not found. -/
theorem exists_missed_link :
    ∃ command, ({} : Builder).tryBuild "x" (linkCall "a\"b".toList) = .ok command ∧
      (linkPage "a\"b").linksTo "a\"b" = [1] ∧
      (command.apply (.node 0 "documentElement")).run { page := linkPage "a\"b" } =
        (.ok none, { page := linkPage "a\"b" }) ∧
      ¬ ReplacesLinks command "a\"b" "x" := by
  have hparse : Selector.parse (Verb.linkSelector "a\"b".toList) =
      .ok (.css [.one (Selector.linkCompound "\"a\\\"b\"")]) := by decide +kernel
  have hbuild := tryBuild_linkCall {} "x" (h := "a\"b".toList) (by decide) (by decide)
  rw [Invocation.readSelector, hparse] at hbuild
  have hlinks : (linkPage "a\"b").linksTo "a\"b" = [1] := by decide +kernel
  have hnone : (linkPage "a\"b").query (.css [.one (Selector.linkCompound "\"a\\\"b\"")]) = [] := by
    decide +kernel
  have hrun : ((Command.action (.querySelector (.css [.one (Selector.linkCompound "\"a\\\"b\"")])
      hrefPath "x")).apply (.node 0 "documentElement")).run { page := linkPage "a\"b" } =
        (.ok none, { page := linkPage "a\"b" }) := by
    rw [Command.apply, Action.apply, Action.applyNode, Change.run_page_bind]
    simp only [hnone]
    rfl
  refine ⟨_, hbuild, hlinks, hrun, fun h => ?_⟩
  obtain ⟨q, hreplaced, -⟩ :=
    h { page := linkPage "a\"b" } 0 "documentElement" (reachable_linkPage _)
  rw [hrun] at hreplaced
  have hsome := Except.ok.inj (Prod.mk.inj hreplaced).1
  simp [Action.several, hlinks] at hsome

end PageOverlay
