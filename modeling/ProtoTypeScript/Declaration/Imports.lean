import ProtoTypeScript.AliasScope
import ProtoTypeScript.Declaration
import ProtoTypeScript.ModulePath

/-!
# Imports of dependencies

A file imports its dependencies and, since a dependency may export its own again, what can be
reached from them through such exports.

* `ImportClosure.names` lists what a file imports: its dependencies in declared order without
  repetition, then the others breadth first; the file itself is left out;
* `AliasScope.importAll` binds `dependency_1`, `dependency_2` and so on to the listed files.
-/

namespace ProtoTypeScript

namespace ImportClosure

/-- The files bound after `bound` by a search that has `pending` before it and takes at most `steps`
files from there. -/
def search (reexports : String → List String) (self : String) :
    (steps : Nat) → (bound pending : List String) → List String
  | 0, bound, _ => bound
  | _ + 1, bound, [] => bound
  | steps + 1, bound, file :: pending =>
    if file = self ∨ file ∈ bound then search reexports self steps bound pending
    else search reexports self steps (bound ++ [file]) (pending ++ reexports file)

/-- The files that `self` imports beside those that are `bound`, when `exported` lists every file
with the ones it exports again. Each list of exports is taken up once, so the search takes no more
steps than there are dependencies and exports. -/
def namesFrom (bound : List String) (exported : List (String × List String)) (self : String)
    (dependencies : List String) : List String :=
  (search (fun file => (exported.lookup file).getD []) self
    (dependencies.length + (exported.flatMap (·.2)).length) bound dependencies).drop bound.length

/-- The files that `self` imports. -/
def names (exported : List (String × List String)) (self : String) (dependencies : List String) :
    List String :=
  namesFrom [] exported self dependencies

end ImportClosure

/-- The scope with an identifier for one more dependency, and its import by `importer`. -/
def AliasScope.importOne (s : AliasScope) (importer : ModulePath) (dependency : String) :
    AliasScope × Import :=
  let (identifier, s') := s.uniqueName "dependency"
  (s'.bind dependency identifier, ⟨identifier, (ModulePath.ofFile dependency).specifier importer⟩)

/-- The scope with identifiers for dependencies, and their imports by `importer`. -/
def AliasScope.importAll (s : AliasScope) (importer : ModulePath) :
    List String → AliasScope × List Import
  | [] => (s, [])
  | dependency :: rest =>
    let (s', first) := s.importOne importer dependency
    let (s'', imports) := s'.importAll importer rest
    (s'', first :: imports)

end ProtoTypeScript
