/-
ModuleBundler/Proofs/Module/Edits.lean

The edits of a module fit its text.  A statement at the top of the module is either taken
out as a whole (`Stmt.isRemoved`), or something of it is left (`Stmt.inner`); then there
are edits at its rim (`Stmt.rim`), and edits of references in what is left.  So all spans
that are edited, and all words that open declarations further inside, are in order, and
no two of them share a character (`Program.fit_places`).

Main results: `Program.fit_places` and, for the edits alone, `Program.fit_edits`.
-/
import ModuleBundler.Proofs.Syntax.Placed
import ModuleBundler.Proofs.Text.Edit
import ModuleBundler.Module.Script

namespace ModuleBundler

/-! ### Statements at the top of a module -/

namespace Stmt

/-- Nothing of the statement is left in the script. -/
def isRemoved : Stmt → Bool
  | .importDecl _ _ _ | .exportList _ _ _ | .exportAll _ _ _ | .exportDecl _ (.typeDecl _) => true
  | _ => false

/-- What is left of a statement in the script, if anything is. -/
def inner : Stmt → Node
  | .exportDecl _ d => .stmt d
  | .exportDefault _ v => .value v
  | s => .stmt s

/-- The edits before and behind what is left of a statement. -/
def rim : Stmt → List Edit
  | .exportDecl span d => [.ofString ⟨span.start, d.span.start⟩ ""]
  | .exportDefault span v =>
      match Link.defaultName? v with
      | some _ => [.ofString ⟨span.start, v.span.start⟩ ""]
      | none =>
          [.ofString ⟨span.start, v.span.start⟩ "exports.default = ",
            .ofString ⟨v.span.stop, span.stop⟩ ";"]
  | _ => []

/-- The spans in a statement that may be edited. -/
def edited (s : Stmt) : List Span :=
  if s.isRemoved then [s.span] else s.rim.map (·.span) ++ s.inner.names

/-- The words that open declarations in what is left of a statement. -/
def words (s : Stmt) : List Span := if s.isRemoved then [] else s.inner.words

theorem edits_contribution (l : Link) (scope : Scope) (s : Stmt) :
    (l.contribution scope s).edits =
      if s.isRemoved then [.removal s.span] else s.rim ++ l.edits scope s.inner := by
  cases s with
  | exportDecl span d => cases d <;> rfl
  | exportDefault span v =>
      show (l.contribution scope (.exportDefault span v)).edits =
        (match Link.defaultName? v with | some _ => _ | none => _) ++ _
      rcases hname : Link.defaultName? v with _ | name <;> simp only [Link.contribution, hname] <;> rfl
  | _ => rfl

/-- The references that are edited are among the names. -/
theorem edits_sublist_names (l : Link) (scope : Scope) (n : Node) :
    ((l.edits scope n).map (·.span)).Sublist n.names := by
  refine List.Sublist.trans ?_ (n.references_sublist_names scope)
  rw [Link.edits]
  induction n.references scope with
  | nil => exact List.Sublist.refl _
  | cons r rs ih =>
      rcases hedit : l.edit? r with _ | e
      · rw [List.filterMap_cons_none hedit]
        exact ih.cons _
      · rw [List.filterMap_cons_some hedit]
        obtain ⟨read, -, rfl⟩ := Option.map_eq_some_iff.1 hedit
        exact ih.cons_cons _

theorem edits_sublist_edited (l : Link) (scope : Scope) (s : Stmt) :
    ((l.contribution scope s).edits.map (·.span)).Sublist s.edited := by
  rw [edits_contribution, edited]
  split
  · exact List.Sublist.refl _
  · rw [List.map_append]
    exact (List.Sublist.refl _).append (edits_sublist_names l scope s.inner)

/-! ### The places of a statement -/

variable {lo hi last : Nat} {s : Stmt} {stmts : List Stmt}

theorem inner_sites_sublist (s : Stmt) : s.inner.sites.Sublist (Node.stmt s).sites := by
  have hpart : ∀ (n m : Node) (frames : List Frame), n.framed = [(frames, m)] →
      m.sites.Sublist n.sites := by
    intro n m frames hframed
    rw [n.sites_eq, hframed]
    simp
  cases s with
  | exportDecl span d => exact hpart (.stmt (.exportDecl span d)) _ [] rfl
  | exportDefault span v => exact hpart (.stmt (.exportDefault span v)) _ [] rfl
  | _ => exact List.Sublist.refl _

/-- Sites that share no character are in order. -/
theorem fit_sites {sites : List Span} (h : sites.Pairwise Span.Apart)
    (hsites : ∀ t ∈ sites, t.start < t.stop ∧ t.stop ≤ hi) : Span.Fit hi sites where
  start_le t ht := Nat.le_of_lt (hsites t ht).1
  stop_le t ht := (hsites t ht).2
  apart := by
    refine h.imp_of_mem fun {s t} hs ht hapart => ?_
    have hs' := (hsites s hs).1
    have ht' := (hsites t ht).1
    rcases hapart with hapart | hapart
    · exact .inl ⟨hapart, by omega⟩
    · exact .inr ⟨hapart, by omega⟩

theorem Placed.fit_inner (hs : s.Placed lo hi) : Span.Fit hi s.inner.sites := by
  refine fit_sites (hs.apart.sublist s.inner_sites_sublist) fun t ht => ?_
  exact (hs.within t (s.inner_sites_sublist.subset ht)).2

/-- The word that opens a declaration stands where the statement may begin. -/
theorem Placed.le_start (hs : s.Placed lo hi) (hdecl : s.isModuleDecl = true) :
    lo ≤ s.span.start := (hs.within _ (Node.word_mem_sites hdecl)).1

/-- A front lies ahead of what it does not overlap. -/
theorem ahead_of_opens {span inner : Span} {sites : List Span} (h : Span.Opens hi span inner sites)
    {t : Span} (ht : t ∈ sites) (hsolid : t.start < t.stop) :
    (⟨span.start, inner.start⟩ : Span).Ahead t ∨ t.Ahead ⟨span.start, inner.start⟩ := by
  have hlt := h.start_lt
  rcases h.apart t ht with hfront | hback
  · exact .inr ⟨hfront, show t.start < inner.start by omega⟩
  · exact .inl ⟨hback, show span.start < t.stop by omega⟩

/-- The rim of a statement and what is left of it are in order. -/
theorem Placed.fit_kept (hs : s.Placed lo hi) (hkept : s.isRemoved = false) :
    Span.Fit hi (s.rim.map (·.span) ++ s.inner.sites) := by
  have hinner := hs.fit_inner
  have hsolid : ∀ t ∈ s.inner.sites, t.start < t.stop :=
    fun t ht => (hs.within t (s.inner_sites_sublist.subset ht)).2.1
  cases s with
  | exportDecl span d =>
      have hopens := hs.fits.opens_decl rfl (by rintro place rfl; cases hkept)
      show Span.Fit hi (⟨span.start, d.span.start⟩ :: (Node.stmt d).sites)
      exact hinner.cons (Nat.le_of_lt hopens.start_lt) hopens.inner_le
        fun t ht => ahead_of_opens hopens ht (hsolid t ht)
  | exportDefault span v =>
      have hopens := hs.fits.opens_default rfl
      have hhead : ∀ t ∈ (Node.value v).sites, _ :=
        fun t ht => ahead_of_opens hopens ht (hsolid t ht)
      rcases hname : Link.defaultName? v with _ | name
      · obtain ⟨hle, hstop, hsites⟩ := hs.fits.closes_default rfl
        -- a value without a name is followed by an edit as well
        have hlt := hopens.start_lt
        have htail : Span.Fit hi (⟨v.span.stop, span.stop⟩ :: (Node.value v).sites) := by
          refine hinner.cons hstop (hs.span_within rfl).2 fun t ht => .inr ⟨hsites t ht, ?_⟩
          exact Nat.lt_of_lt_of_le (hsolid t ht) (Nat.le_trans (hsites t ht) hstop)
        simp only [rim, hname]
        show Span.Fit hi (⟨span.start, v.span.start⟩ :: ⟨v.span.stop, span.stop⟩ ::
          (Node.value v).sites)
        refine htail.cons (Nat.le_of_lt hlt) hopens.inner_le (List.forall_mem_cons.2 ⟨?_, hhead⟩)
        exact .inl ⟨hle, show span.start < span.stop by omega⟩
      · simp only [rim, hname]
        show Span.Fit hi (⟨span.start, v.span.start⟩ :: (Node.value v).sites)
        exact hinner.cons (Nat.le_of_lt hopens.start_lt) hopens.inner_le hhead
  | _ => exact hinner

/-- The rim of a statement stands behind the place where the statement begins. -/
theorem Placed.rim_within (hs : s.Placed lo hi) (hkept : s.isRemoved = false) {e : Edit}
    (he : e ∈ s.rim) : lo ≤ e.span.start ∧ lo < e.span.stop := by
  cases s with
  | exportDecl span d =>
      have hlo : lo ≤ span.start := hs.le_start rfl
      have hlt := (hs.fits.opens_decl rfl (by rintro place rfl; cases hkept)).start_lt
      obtain rfl := List.mem_singleton.1 he
      exact ⟨hlo, Nat.lt_of_le_of_lt hlo hlt⟩
  | exportDefault span v =>
      have hlo : lo ≤ span.start := hs.le_start rfl
      have hlt := (hs.fits.opens_default rfl).start_lt
      obtain ⟨hle, hstop, -⟩ := hs.fits.closes_default rfl
      rcases hname : Link.defaultName? v with _ | name <;> simp only [rim, hname] at he
      · rcases List.mem_cons.1 he with rfl | he
        · exact ⟨hlo, Nat.lt_of_le_of_lt hlo hlt⟩
        · obtain rfl := List.mem_singleton.1 he
          have hback : lo < v.span.stop := by omega
          exact ⟨Nat.le_of_lt hback, Nat.lt_of_lt_of_le hback hstop⟩
      · obtain rfl := List.mem_singleton.1 he
        exact ⟨hlo, Nat.lt_of_le_of_lt hlo hlt⟩
  | _ => exact absurd he List.not_mem_nil

theorem isModuleDecl_of_isRemoved (h : s.isRemoved = true) : s.isModuleDecl = true := by
  unfold isRemoved at h
  split at h <;> first | rfl | cases h

/-- All places of a statement: the spans that may be edited, and the words that stay. -/
def places (s : Stmt) : List Span := s.edited ++ s.words

theorem Placed.fit_places (hs : s.Placed lo hi) : Span.Fit hi s.places := by
  by_cases hremoved : s.isRemoved = true
  · obtain ⟨hlt, hstop⟩ := hs.span_within (isModuleDecl_of_isRemoved hremoved)
    simp only [places, edited, words, hremoved, if_true, List.append_nil]
    exact Span.Fit.nil.cons (Nat.le_of_lt hlt) hstop (by simp)
  · simp only [places, edited, words, if_neg hremoved]
    refine (hs.fit_kept (Bool.not_eq_true _ ▸ hremoved)).perm ?_
    rw [List.append_assoc]
    exact (List.Perm.refl _).append s.inner.sites_perm.symm

theorem Placed.places_within (hs : s.Placed lo hi) {t : Span} (ht : t ∈ s.places) :
    lo ≤ t.start ∧ lo < t.stop := by
  by_cases hremoved : s.isRemoved = true
  · simp only [places, edited, words, hremoved, if_true, List.append_nil] at ht
    obtain rfl := List.mem_singleton.1 ht
    have hdecl := isModuleDecl_of_isRemoved hremoved
    exact ⟨hs.le_start hdecl, Nat.lt_of_le_of_lt (hs.le_start hdecl) (hs.span_within hdecl).1⟩
  · simp only [places, edited, words, if_neg hremoved, List.append_assoc] at ht
    rcases List.mem_append.1 ht with ht | ht
    · obtain ⟨e, he, rfl⟩ := List.mem_map.1 ht
      exact hs.rim_within (Bool.not_eq_true _ ▸ hremoved) he
    · have hsite := s.inner_sites_sublist.subset (s.inner.sites_perm.mem_iff.2 ht)
      obtain ⟨hlo, hlt, -⟩ := hs.within t hsite
      exact ⟨hlo, Nat.lt_of_le_of_lt hlo hlt⟩

/-- The places of statements that stand one after the other. -/
theorem AllPlaced.fit_places (h : AllPlaced last lo stmts) :
    Span.Fit last (stmts.flatMap places) ∧ ∀ t ∈ stmts.flatMap places, lo ≤ t.start ∧ lo < t.stop := by
  induction h with
  | nil => exact ⟨.nil, by simp⟩
  | cons hfirst hrest ih =>
      obtain ⟨hfit, hwithin⟩ := ih
      rw [List.flatMap_cons]
      refine ⟨hfirst.fit_places.append hfit hrest.le hwithin, fun t ht => ?_⟩
      rcases List.mem_append.1 ht with ht | ht
      · exact hfirst.places_within ht
      · obtain ⟨hstart, hstop⟩ := hwithin t ht
        exact ⟨Nat.le_trans hfirst.le hstart, Nat.lt_of_le_of_lt hfirst.le hstop⟩

end Stmt

/-! ### The whole module -/

namespace Program

variable {p : Program}

theorem mem_edits {e : Edit} : e ∈ p.edits ↔
    (∃ span ∈ p.hashbang, e = .ofString span "") ∨
      ∃ s ∈ p.stmts, e ∈ ((Link.ofProgram p).contribution p.scope s).edits := by
  simp only [edits, contributions, List.mem_append, List.mem_map, List.mem_flatMap,
    Option.mem_toList]
  constructor
  · rintro (⟨span, hspan, rfl⟩ | ⟨c, ⟨s, hs, rfl⟩, he⟩)
    · exact .inl ⟨span, hspan, rfl⟩
    · exact .inr ⟨s, hs, he⟩
  · rintro (⟨span, hspan, rfl⟩ | ⟨s, hs, he⟩)
    · exact .inl ⟨span, hspan, rfl⟩
    · exact .inr ⟨_, ⟨s, hs, rfl⟩, he⟩

/-- The spans of a module that may be edited. -/
def edited (p : Program) : List Span := p.hashbang.toList ++ p.stmts.flatMap Stmt.edited

/-- The words in a module that open declarations further inside statements. -/
def words (p : Program) : List Span := p.stmts.flatMap Stmt.words

/-- **No two places of a module share a character.** -/
theorem fit_places (hp : p.IsPlaced) : Span.Fit p.span.stop (p.edited ++ p.words) := by
  obtain ⟨lo, hhashbang, hall⟩ := hp
  obtain ⟨hfit, hwithin⟩ := hall.fit_places
  have hfront : Span.Fit lo p.hashbang.toList := by
    cases hspan : p.hashbang with
    | none => exact .nil
    | some span =>
        obtain ⟨hle, hstop⟩ := hhashbang span hspan
        exact Span.Fit.nil.cons hle hstop (by simp)
  refine (hfront.append hfit hall.le hwithin).perm ?_
  rw [edited, words, List.append_assoc]
  exact (List.Perm.refl _).append (List.flatMap_append_perm _ _ _)

theorem edits_sublist_edited (p : Program) : (p.edits.map (·.span)).Sublist p.edited := by
  rw [edits, contributions, List.flatMap_map, List.map_append, List.map_map, List.map_flatMap]
  refine List.Sublist.append ?_ (List.Sublist.flatMap_right _ fun s _ => ?_)
  · exact (List.map_id _).symm ▸ List.Sublist.refl _
  · exact s.edits_sublist_edited _ _

/-- **The edits of a module can be carried out in any order.** -/
theorem fit_edits (hp : p.IsPlaced) : Edit.Fit p.span.stop p.edits :=
  Edit.fit_of_spans (fit_places hp)
    (p.edits_sublist_edited.trans (List.sublist_append_left _ _))

end Program

end ModuleBundler
