/-
ModuleBundler/Proofs/Syntax/Sites.lean

The places in the text that a rewriting of a module must tell apart: the names in it,
and the words `import` and `export` that open declarations.  A name is any identifier
of the tree, whether it is a reference, binds a name, or names a property or a label
(`Node.idents`); references are some of them (`own_sublist_idents`).

The sites of a node are the spans of those in it (`Node.sites`), in no particular
order; what matters is that no two of them share a character.
-/
import Mathlib.Data.List.Flatten
import Mathlib.Data.List.Perm.Subperm
import ModuleBundler.Proofs.Syntax.Part

namespace ModuleBundler

/-! ### Spans -/

/-- The span, unless it is empty. -/
def Span.solid (s : Span) : List Span := if s.start < s.stop then [s] else []

theorem Span.mem_solid {s t : Span} : t ∈ s.solid ↔ t = s ∧ s.start < s.stop := by
  by_cases h : s.start < s.stop <;> simp [Span.solid, h]

theorem Span.pairwise_solid {R : Span → Span → Prop} (s : Span) : s.solid.Pairwise R := by
  unfold solid
  split
  · exact List.pairwise_singleton R s
  · exact List.Pairwise.nil

/-- Two spans share no character. -/
def Span.Apart (s t : Span) : Prop := s.stop ≤ t.start ∨ t.stop ≤ s.start

theorem Span.Apart.symm {s t : Span} (h : s.Apart t) : t.Apart s := Or.symm h

/-! ### Declarations -/

/-- The statement imports or exports. -/
def Stmt.isModuleDecl : Stmt → Bool
  | .importDecl _ _ _ | .exportDecl _ _ | .exportList _ _ _ | .exportAll _ _ _
  | .exportDefault _ _ => true
  | _ => false

/-- The word that opens a declaration; `import` and `export` have six letters. -/
def Stmt.keyword? (s : Stmt) : Option Span :=
  if s.isModuleDecl then some ⟨s.span.start, s.span.start + 6⟩ else none

namespace Node

/-! ### Descendants -/

/-- The nodes of a walk do not depend on the scope it begins with. -/
theorem map_snd_walk (s t : Scope) (n : Node) :
    (n.walk s).map (·.2) = (n.walk t).map (·.2) := by
  induction n using partInduction generalizing s t with
  | h n ih =>
      rw [walk_eq, walk_eq, List.map_cons, List.map_cons, List.map_flatMap, List.map_flatMap]
      exact congrArg _ (List.flatMap_congr fun x hx => ih x hx _ _)

/-- The node and all parts below it. -/
def descendants (n : Node) : List Node := (n.walk []).map (·.2)

theorem descendants_eq (n : Node) :
    n.descendants = n :: n.framed.flatMap (·.2.descendants) := by
  rw [descendants, walk_eq, List.map_cons, List.map_flatMap]
  exact congrArg _ (List.flatMap_congr fun x _ => map_snd_walk _ _ _)

/-! ### Names -/

end Node

def TypePiece.ident? : TypePiece → Option Ident
  | .name id => some id
  | .text _ => none

/-- The identifier that a name of an import or export is, unless it is a string. -/
def ModuleName.ident? (n : ModuleName) : Option Ident :=
  if n.quoted then none else some ⟨n.text, n.span⟩

namespace Node

/-- The names of the node itself, those of its parts aside.  The name of a shorthand counts once,
and so does one that an import or export list gives two meanings. -/
def idents : Node → List Ident
  | expr (.name id) | expr (.call _ (.name id) _ _ _) | expr (.tagged _ (.name id) _)
  | expr (.member _ _ id _) | expr (.privateMember _ _ id _) | expr (.privateIn _ id _)
  | key (.name id) | key (.privateName id)
  | property (.keyed _ _ (.name id) true)
  | pattern _ (.name id)
  | field _ ⟨_, _, .name id, true⟩ | field _ ⟨_, _, .withDefault _ (.name id) _, true⟩
  | stmt (.labeled _ id _) | stmt (.enumDecl _ id _ _) => [id]
  | func _ f => f.id.toList
  | classNode _ c => c.id.toList ++ (c.typeArgs ++ c.interfaces).filterMap (·.ident?)
  | stmt (.breakTo _ label) | stmt (.continueTo _ label) => label.toList
  | stmt (.importDecl _ specs _) => (specs.getD []).map (·.localName)
  | stmt (.exportList _ specs _) => specs.filterMap (·.localName.ident?)
  | _ => []

/-- The names that a node refers to are among its names, whatever the scope. -/
theorem own_sublist_idents (s : Scope) (n : Node) :
    ((n.own s).map (·.id)).Sublist n.idents := by
  unfold own
  -- only a class and an export list have other identifiers among their names
  split
  case h_8 bindsSelf c =>
      have hpieces : ∀ ps : List TypePiece, ((ps.filterMap fun
          | .name id => some (refer (classFrame bindsSelf c :: s) .plain false id)
          | .text _ => none).map (·.id)).Sublist (ps.filterMap (·.ident?)) := by
        intro ps
        rw [List.map_filterMap]
        refine List.filterMap_congr (fun piece _ => ?_) ▸ List.Sublist.refl _
        cases piece <;> rfl
      exact (hpieces _).trans (List.sublist_append_right _ _)
  case h_9 specs =>
      have hspecs : (((specs.filter (! ·.localName.quoted)).map fun spec =>
          refer s .plain false ⟨spec.localName.text, spec.localName.span⟩).map (·.id)).Sublist
            (specs.filterMap (·.localName.ident?)) := by
        induction specs with
        | nil => exact List.Sublist.refl _
        | cons spec specs ih =>
            obtain ⟨⟨text, quoted, lone, place⟩, exported⟩ := spec
            cases quoted with
            | false =>
                rw [List.filter_cons_of_pos (by rfl)]
                exact ih.cons_cons _
            | true =>
                rw [List.filter_cons_of_neg (by simp)]
                exact ih
      exact hspecs
  case h_10 => exact List.nil_sublist _
  all_goals exact List.Sublist.refl _

/-! ### Sites -/

/-- The spans of the names of the node itself. -/
def nameSites (n : Node) : List Span := n.idents.map (·.span)

/-- The word that opens the node, if it is a declaration. -/
def wordSites : Node → List Span
  | stmt s => s.keyword?.toList
  | _ => []

def ownSites (n : Node) : List Span := n.nameSites ++ n.wordSites

/-- The sites of the node and all parts below it. -/
def sites (n : Node) : List Span := n.descendants.flatMap ownSites

theorem sites_eq (n : Node) : n.sites = n.ownSites ++ n.framed.flatMap (·.2.sites) := by
  rw [sites, descendants_eq, List.flatMap_cons, List.flatMap_assoc]
  rfl

/-- The word that opens a declaration is one of its sites. -/
theorem word_mem_sites {s : Stmt} (h : s.isModuleDecl = true) :
    ⟨s.span.start, s.span.start + 6⟩ ∈ (stmt s).sites := by
  rw [sites_eq, ownSites, wordSites, Stmt.keyword?, if_pos h]
  exact List.mem_append_left _ (List.mem_append_right _ (List.mem_singleton_self _))

/-- The names in the node and all parts below it. -/
def allIdents (n : Node) : List Ident := n.descendants.flatMap idents

/-- The spans of the names in the node and all parts below it. -/
def names (n : Node) : List Span := n.descendants.flatMap nameSites

theorem map_span_allIdents (n : Node) : n.allIdents.map (·.span) = n.names := List.map_flatMap

/-- The words that open declarations in the node and all parts below it. -/
def words (n : Node) : List Span := n.descendants.flatMap wordSites

theorem sites_perm (n : Node) : n.sites.Perm (n.names ++ n.words) :=
  (List.flatMap_append_perm _ _ _).symm

/-- What the references in a node refer to is among the names in it. -/
theorem references_sublist_allIdents (s : Scope) (n : Node) :
    ((n.references s).map (·.id)).Sublist n.allIdents := by
  have hwalk : n.descendants = (n.walk s).map (·.2) := map_snd_walk [] s n
  rw [references, List.map_flatMap, allIdents, hwalk, List.flatMap_map]
  exact List.Sublist.flatMap_right _ fun x _ => own_sublist_idents x.1 x.2

theorem references_sublist_names (s : Scope) (n : Node) :
    ((n.references s).map (·.id.span)).Sublist n.names := by
  have hids := (n.references_sublist_allIdents s).map (·.span)
  rwa [List.map_map, map_span_allIdents] at hids

end Node

end ModuleBundler
