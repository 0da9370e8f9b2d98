import PageOverlay.Configuration.Commands

/-!
# Stores

A store keeps configurations together with their commands. The commands of a configuration are
built when they are first asked for and kept from then on, also when its imports change; all else
follows the store as it is.
-/

set_option autoImplicit false

namespace PageOverlay

structure StoredConfiguration where
  configuration : Configuration
  built : Option (List Command) := none

structure Store where
  entries : List (String × StoredConfiguration) := []

namespace Store

def repository (s : Store) : Repository := s.entries.map fun (n, e) => (n, e.configuration)

def find? (s : Store) (name : String) : Option StoredConfiguration :=
  (s.entries.find? (·.1 == name)).map (·.2)

def put (name : String) (e : StoredConfiguration) :
    List (String × StoredConfiguration) → List (String × StoredConfiguration)
  | [] => [(name, e)]
  | (n, d) :: rest => if n = name then (n, e) :: rest else (n, d) :: put name e rest

def add (s : Store) (name : String) (c : Configuration) : Store :=
  { entries := put name { configuration := c } s.entries }

def clear : Store := {}

def commands (s : Store) (name : String) : Option (Configuration × List Command) × Store :=
  match s.find? name with
  | none => (none, s)
  | some e =>
    match e.built with
    | some commands => (some (e.configuration, commands), s)
    | none =>
      let commands := e.configuration.commands s.repository
      (some (e.configuration, commands),
        { entries := put name { e with built := some commands } s.entries })

end Store
end PageOverlay
