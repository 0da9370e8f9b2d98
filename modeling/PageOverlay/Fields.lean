/-!
# Fields

Values under names, in ascending order of the names, each name once. An entry is found by its name
alone, so the order only shows where fields are listed.
-/

set_option autoImplicit false

namespace PageOverlay

abbrev Fields (α : Type) := List (String × α)

namespace Fields

variable {α : Type}

def get? (name : String) : Fields α → Option α
  | [] => none
  | (n, a) :: rest => if n = name then some a else get? name rest

def put (name : String) (value : α) : Fields α → Fields α
  | [] => [(name, value)]
  | (n, a) :: rest =>
    if n = name then (name, value) :: rest
    else if name < n then (name, value) :: (n, a) :: rest
    else (n, a) :: put name value rest

def erase (name : String) : Fields α → Fields α
  | [] => []
  | (n, a) :: rest => if n = name then erase name rest else (n, a) :: erase name rest

def ofList (entries : List (String × α)) : Fields α :=
  entries.foldl (fun fs e => put e.1 e.2 fs) []

theorem get?_put_self (name : String) (value : α) (fs : Fields α) :
    get? name (put name value fs) = some value := by
  induction fs with
  | nil => simp [put, get?]
  | cons f fs ih =>
    obtain ⟨n, a⟩ := f
    by_cases h : n = name
    · simp [put, get?, h]
    · by_cases hlt : name < n <;> simp [put, get?, h, hlt, ih]

theorem get?_put_of_ne {name other : String} (h : other ≠ name) (value : α) (fs : Fields α) :
    get? other (put name value fs) = get? other fs := by
  induction fs with
  | nil => simp [put, get?, Ne.symm h]
  | cons f fs ih =>
    obtain ⟨n, a⟩ := f
    by_cases hn : n = name
    · subst hn; simp [put, get?, Ne.symm h]
    · by_cases hlt : name < n
      · simp [put, get?, hn, hlt, Ne.symm h]
      · simp only [put, hn, hlt, if_false]
        by_cases ho : n = other <;> simp [get?, ho, ih]

theorem put_put (name : String) (value other : α) (fs : Fields α) :
    put name other (put name value fs) = put name other fs := by
  induction fs with
  | nil => simp [put]
  | cons f fs ih =>
    obtain ⟨n, a⟩ := f
    by_cases h : n = name
    · simp [put, h]
    · by_cases hlt : name < n <;> simp [put, h, hlt, ih]

theorem get?_erase_self (name : String) (fs : Fields α) : get? name (erase name fs) = none := by
  induction fs with
  | nil => rfl
  | cons f fs ih =>
    obtain ⟨n, a⟩ := f
    by_cases h : n = name <;> simp [erase, get?, h, ih]

theorem get?_erase_of_ne {name other : String} (h : other ≠ name) (fs : Fields α) :
    get? other (erase name fs) = get? other fs := by
  induction fs with
  | nil => rfl
  | cons f fs ih =>
    obtain ⟨n, a⟩ := f
    by_cases hn : n = name
    · subst hn; simp [erase, get?, ih, Ne.symm h]
    · by_cases ho : n = other
      · subst ho; simp [erase, get?, h]
      · simp [erase, get?, hn, ho, ih]

end Fields
end PageOverlay
