import PageOverlay.Proofs.Sheet.Options
import PageOverlay.Proofs.Sheet.Printing

/-!
# Reading undoes printing

What a list of items declares is said of the list as a whole: the values of each key, the scope of
the last header before an item, the first line of an import. Sheets that are printed item by item,
one line each, are read as just that.
-/

set_option autoImplicit false

namespace PageOverlay.Sheet

namespace Item

def scope? : Item → Option String
  | header segments => some (String.ofList (Text.joinWith ['.'] segments))
  | _ => none

def key? : Item → Option (List Char)
  | option key _ => some key
  | flag key => some key
  | _ => none

def valueAt? (key : List Char) : Item → Option String
  | option k value => if k = key then some (String.ofList value) else none
  | _ => none

def import? : Item → Option (List Char)
  | importing name => if name = [] then none else some name
  | _ => none

def body? : Item → Option CommandBody
  | importing name => if name = [] then some (.faulty .noImportName) else none
  | assign search replacement =>
    some (.invocation (String.ofList search) (String.ofList replacement))
  | call name inside value =>
    some (.invocation (String.ofList (callText name inside)) (String.ofList value))
  | _ => none

end Item

def scopeOf (items : List Item) : String := (items.filterMap Item.scope?).getLast?.getD ""

def withEarlier (earlier : List Item) : List Item → List (List Item × Item)
  | [] => []
  | item :: rest => (earlier, item) :: withEarlier (earlier ++ [item]) rest

def Item.declaration? (earlier : List Item) : Item → Option Declaration
  | .declare name value description =>
    some { name := String.ofList name, value := String.ofList value,
           description := String.ofList description, scope := scopeOf earlier,
           line := earlier.length + 1 }
  | _ => none

def Item.command? (earlier : List Item) (item : Item) : Option CommandLine :=
  item.body?.map fun body => { line := earlier.length + 1, scope := scopeOf earlier, body }

/-- Keys in the order in which they first appear, each with its values in order. -/
def optionsOf (items : List Item) : List (String × List String) :=
  (items.filterMap Item.key?).eraseDups.map fun key =>
    (String.ofList key, items.filterMap (Item.valueAt? key))

def importsOf (items : List Item) : List Import :=
  (items.filterMap Item.import?).eraseDups.map fun name =>
    { name := String.ofList name, line := items.idxOf (.importing name) + 1 }

def sheetOf (items : List Item) : Sheet where
  options := optionsOf items
  declarations := (withEarlier [] items).filterMap fun p => p.2.declaration? p.1
  imports := importsOf items
  commands := (withEarlier [] items).filterMap fun p => p.2.command? p.1

def printed (sep : List Char) (items : List Item) : String :=
  String.ofList (Text.joinWith sep (items.map Item.print))

variable {items : List Item} {item : Item}

theorem withEarlier_concat (earlier items : List Item) (item : Item) :
    withEarlier earlier (items ++ [item]) =
      withEarlier earlier items ++ [(earlier ++ items, item)] := by
  induction items generalizing earlier with
  | nil => simp [withEarlier]
  | cons first items ih => simp [withEarlier, ih]

theorem filterMap_withEarlier_concat {α : Type} (f : List Item → Item → Option α)
    (items : List Item) (item : Item) :
    (withEarlier [] (items ++ [item])).filterMap (fun p => f p.1 p.2) =
      (withEarlier [] items).filterMap (fun p => f p.1 p.2) ++ (f items item).toList := by
  rw [withEarlier_concat, List.filterMap_append]
  cases h : f items item <;> simp [h]

theorem scopeOf_concat (items : List Item) (item : Item) :
    scopeOf (items ++ [item]) = item.scope?.getD (scopeOf items) := by
  cases h : item.scope? <;> simp [scopeOf, h]

theorem optionsOf_concat_of_none (h : item.key? = none) :
    optionsOf (items ++ [item]) = optionsOf items := by
  have hvalue (key : List Char) : item.valueAt? key = none := by
    cases item <;> simp_all [Item.key?, Item.valueAt?]
  simp [optionsOf, h, hvalue]

theorem optionsOf_concat_of_key {key : List Char} {value : Option String}
    (h : item.key? = some key)
    (hvalue : ∀ k, item.valueAt? k = if k = key then value else none) :
    optionsOf (items ++ [item]) = addOption (String.ofList key) value (optionsOf items) := by
  have hvalues (k : List Char) : (items ++ [item]).filterMap (Item.valueAt? k) =
      items.filterMap (Item.valueAt? k) ++ if k = key then value.toList else [] := by
    rw [List.filterMap_append]
    by_cases hk : k = key <;> cases value <;> simp [hvalue, hk]
  have hnone : key ∉ items.filterMap Item.key? → items.filterMap (Item.valueAt? key) = [] := by
    intro hkey
    refine List.filterMap_eq_nil_iff.mpr fun other hother => ?_
    cases other with
    | option k v =>
      have hk : k ≠ key :=
        fun hk => hkey (List.mem_filterMap.mpr ⟨_, hother, by simp [Item.key?, hk]⟩)
      simp [Item.valueAt?, hk]
    | _ => rfl
  have hofList : Function.Injective String.ofList := fun _ _ => String.ofList_injective
  rw [optionsOf, optionsOf, addOption_map hofList (nodup_eraseDups _), List.filterMap_append,
    List.filterMap_cons, h, List.filterMap_nil, eraseDups_concat]
  simp only [hvalues, List.mem_eraseDups]
  split
  · rw [List.append_nil]
  · next hkey => simp [hnone hkey]

theorem import?_eq_some {name : List Char} :
    item.import? = some name ↔ item = .importing name ∧ name ≠ [] := by
  cases item with
  | importing other =>
    simp only [Item.import?, Item.importing.injEq]
    grind
  | _ => simp [Item.import?]

theorem mem_imports {name : List Char} :
    name ∈ items.filterMap Item.import? ↔ Item.importing name ∈ items ∧ name ≠ [] := by
  simp only [List.mem_filterMap, import?_eq_some]
  grind

/-- The first line of an import is not changed by what comes later. -/
theorem importsOf_concat (items : List Item) (item : Item) :
    importsOf (items ++ [item]) = importsOf items ++
      (item.import?.bind fun name =>
        if name ∈ items.filterMap Item.import? then none
        else some { name := String.ofList name, line := items.length + 1 }).toList := by
  have hkept : ((items.filterMap Item.import?).eraseDups.map fun name =>
      ({ name := String.ofList name, line := (items ++ [item]).idxOf (.importing name) + 1 } :
        Import)) = importsOf items := by
    refine List.map_congr_left fun name hname => ?_
    rw [List.idxOf_append_of_mem (mem_imports.mp (List.mem_eraseDups.mp hname)).1]
  cases h : item.import? with
  | none =>
    rw [importsOf, List.filterMap_append, List.filterMap_cons, h, List.filterMap_nil,
      List.append_nil, hkept]
    simp
  | some name =>
    obtain ⟨rfl, hname⟩ := import?_eq_some.mp h
    rw [importsOf, List.filterMap_append, List.filterMap_cons, h, List.filterMap_nil,
      eraseDups_concat, Option.bind_some]
    split
    · rw [hkept]
      simp
    · next hnew =>
      have hfresh : Item.importing name ∉ items := fun hmem => hnew (mem_imports.mpr ⟨hmem, hname⟩)
      rw [List.map_append, hkept, List.map_singleton, List.idxOf_append_of_notMem hfresh]
      simp

theorem any_importsOf (items : List Item) (name : List Char) :
    (importsOf items).any (·.name = String.ofList name) =
      decide (name ∈ items.filterMap Item.import?) := by
  rw [Bool.eq_iff_iff]
  simp only [importsOf, List.any_map, List.any_eq_true, List.mem_eraseDups, Function.comp_apply,
    decide_eq_true_eq]
  constructor
  · rintro ⟨other, hother, hsame⟩
    exact String.ofList_injective hsame ▸ hother
  · exact fun h => ⟨name, h, rfl⟩

attribute [simp] Item.scope? Item.valueAt? Item.import? Item.body? Item.declaration? Item.command?

theorem step_of_outcome {n : Nat} (h : item.Fits) (r : Reading) :
    r.step (lineAt n item.print) =
      match item.outcome with
      | .ok entry => r.add n entry
      | .error fault => r.addCommand n (.faulty fault) := by
  rw [Reading.step, readLine_print h]
  rfl

def readingOf (items : List Item) : Reading := { scope := scopeOf items, sheet := sheetOf items }

theorem readingOf_concat (items : List Item) (item : Item) :
    readingOf (items ++ [item]) =
      { scope := item.scope?.getD (scopeOf items)
        sheet :=
          { options := optionsOf (items ++ [item])
            declarations := (sheetOf items).declarations ++ (item.declaration? items).toList
            imports := importsOf (items ++ [item])
            commands := (sheetOf items).commands ++ (item.command? items).toList } } := by
  rw [readingOf, scopeOf_concat, sheetOf,
    filterMap_withEarlier_concat fun earlier item => item.declaration? earlier,
    filterMap_withEarlier_concat fun earlier item => item.command? earlier]
  rfl

theorem step_print (h : item.Fits) (items : List Item) :
    (readingOf items).step (lineAt (items.length + 1) item.print) =
      readingOf (items ++ [item]) := by
  rw [step_of_outcome h, readingOf_concat, importsOf_concat]
  cases item with
  | header segments =>
    rw [optionsOf_concat_of_none rfl]
    simp [Reading.add, readingOf, sheetOf]
  | option key value =>
    have hvalue (k : List Char) : (Item.option key value).valueAt? k =
        if k = key then some (String.ofList value) else none := by simp [eq_comm]
    rw [optionsOf_concat_of_key rfl hvalue]
    simp [Reading.add, readingOf, sheetOf]
  | flag key =>
    have hvalue (k : List Char) : (Item.flag key).valueAt? k =
        if k = key then none else none := by simp
    rw [optionsOf_concat_of_key rfl hvalue]
    simp [Reading.add, readingOf, sheetOf]
  | declare name value description =>
    rw [optionsOf_concat_of_none rfl]
    simp [Reading.add, readingOf, sheetOf]
  | importing name =>
    rw [optionsOf_concat_of_none rfl]
    by_cases hname : name = []
    · simp [Reading.addCommand, readingOf, sheetOf, hname]
    · have hknown := any_importsOf items name
      by_cases hmem : name ∈ items.filterMap Item.import? <;>
        simp [Reading.add, readingOf, sheetOf, hname, hknown, hmem, -List.mem_filterMap]
  | assign search replacement =>
    rw [optionsOf_concat_of_none rfl]
    simp [Reading.add, Reading.addCommand, readingOf, sheetOf]
  | call name inside value =>
    rw [optionsOf_concat_of_none rfl]
    simp [Reading.add, Reading.addCommand, readingOf, sheetOf]

theorem foldl_print (h : ∀ item ∈ items, item.Fits) :
    (number 1 (items.map Item.print)).foldl Reading.step {} = readingOf items := by
  -- on the last line, since what it adds depends on all lines before it
  induction items using List.reverseRecOn with
  | nil => rfl
  | append_singleton items item ih =>
    have hitems : ∀ other ∈ items, other.Fits := fun other hother => h other (by simp [hother])
    have hnumber : number (1 + (items.map Item.print).length) [item.print] =
        [lineAt (items.length + 1) item.print] := by
      rw [List.length_map, Nat.add_comm]
      rfl
    rw [List.map_append, List.map_singleton, number_append, List.foldl_append, ih hitems, hnumber,
      List.foldl_cons, List.foldl_nil, step_print (h item (by simp))]

/-- Items that are printed on lines of their own are read as what they declare, whatever the parts
of each may hold of the others' marks. -/
theorem read_printed {sep : List Char} (hsep : sep ∈ lineBreaks) {items : List Item}
    (h : ∀ item ∈ items, item.IsWellFormed) : read (printed sep items) = sheetOf items := by
  cases items with
  | nil => rfl
  | cons first rest =>
    have hlines : ∀ l ∈ (first :: rest).map Item.print, IsUnbroken l := by
      intro l hl
      obtain ⟨item, hitem, rfl⟩ := List.mem_map.mp hl
      exact (h item hitem).unbroken
    have hsplit := splitLines_joinWith hsep (by simp) hlines
    have hfold := foldl_print fun item hitem => (h item hitem).fits
    rw [read, printed, String.toList_ofList, lines, hsplit, ofLines, hfold]
    rfl

def oneOfEach : List Item :=
  [.header [['a'], ['b', ' ', '!', 'c']],
   .option ['k', '-', 'k'] ['x', ' ', '=', ' ', '/', '/'],
   .flag ['k'],
   .declare ['v'] [':', '/', '/', 'w'] ['=', '/', '/'],
   .importing ['I', '=', '['],
   .assign ['p', '=', '('] ['+', '"'],
   .call ['f'] ['"', '=', ')', '"', ',', ' ', 'g', '(', '\\', '=', ')'] ['$', 'v']]

theorem oneOfEach_isWellFormed : ∀ item ∈ oneOfEach, item.IsWellFormed := by
  have hunbroken : ∀ item ∈ oneOfEach, IsUnbroken item.print := by
    have hall : oneOfEach.all fun item => item.print.all fun c => c != '\r' && c != '\n' := by
      decide
    simpa [IsUnbroken] using hall
  have hslashes : ∀ before after : List Char, [':', '/', '/', 'w'] = before ++ '/' :: '/' :: after →
      before.getLast? = some ':' := by
    intro before after h
    match before, h with
    | [], h => simp at h
    | [a], h =>
      obtain ⟨rfl, -⟩ := List.cons.inj h
      rfl
    | [a, b], h => simp at h
    | [a, b, c], h => simp at h
    | a :: b :: c :: d :: rest, h => simp at h
  have hfits : ∀ item ∈ oneOfEach, item.Fits := by
    simp only [oneOfEach, List.forall_mem_cons, List.not_mem_nil, false_imp_iff, implies_true,
      and_true, Item.Fits]
    exact ⟨⟨by decide, by decide⟩, ⟨⟨_, _, rfl, by decide, by decide⟩, by decide, by decide⟩,
      ⟨_, _, rfl, by decide, by decide⟩,
      ⟨⟨_, _, rfl, by decide, by decide⟩, by decide, by decide, hslashes⟩, by decide,
      ⟨by decide, by decide, by decide, by simp [leadingMarks], by decide⟩,
      by decide, ⟨_, rfl⟩, by decide, by decide⟩
  exact fun item hitem => ⟨hfits item hitem, hunbroken item hitem⟩

theorem read_printed_one_of_each :
    (∀ item ∈ oneOfEach, item.IsWellFormed) ∧
      read (printed ['\n'] oneOfEach) =
        { options := [("k-k", ["x = //"]), ("k", [])]
          declarations :=
            [{ name := "v", value := "://w", description := "=//", scope := "a.b !c", line := 4 }]
          imports := [{ name := "I=[", line := 5 }]
          commands :=
            [{ line := 6, scope := "a.b !c", body := .invocation "p=(" "+\"" },
              { line := 7, scope := "a.b !c",
                body := .invocation "!f(\"=)\", g(\\=))" "$v" }] } :=
  ⟨oneOfEach_isWellFormed, (read_printed (by decide) oneOfEach_isWellFormed).trans (by decide)⟩

/-- A plus sign without a name is no import of the empty name. -/
theorem read_unnamed_import :
    (Item.importing []).IsWellFormed ∧
      read (printed ['\n'] [.importing []]) ≠ { imports := [{ name := "", line := 1 }] } ∧
      read (printed ['\n'] [.importing []]) =
        { commands := [{ line := 1, scope := "", body := .faulty .noImportName }] } :=
  ⟨⟨⟨by decide, by decide⟩, by simp [IsUnbroken, Item.print]⟩, by decide, by decide⟩

end PageOverlay.Sheet
