import Mathlib.Data.List.Chain
import ChangeImpact.Patch.Run
/-!
# The groups of a hunk

A group is a longest stretch of lines of one kind: the lines before it do not end with that kind,
and those after it do not start with it. Every such stretch is a group and every group is one.
-/
set_option autoImplicit false

namespace ChangeImpact.Patch

/-- No line of the kind stands at the end of the lines. -/
def EndsApart (kind : Kind) (typed : List (Kind × Line)) : Prop :=
  ∀ last ∈ typed.getLast?, last.1 ≠ kind

/-- No line of the kind stands at the start of the lines. -/
def StartsApart (kind : Kind) (typed : List (Kind × Line)) : Prop :=
  ∀ first ∈ typed.head?, first.1 ≠ kind

/-! ## From stretches to groups -/

theorem head?_groupByKind (typed : List (Kind × Line)) :
    (groupByKind typed).head?.map Prod.fst = typed.head?.map Prod.fst := by
  cases typed with
  | nil => rfl
  | cons first rest =>
      rw [groupByKind_cons]
      unfold consGroup
      split
      · split
        · rename_i same
          simp [same]
        · simp
      · simp

theorem consGroup_append (typed : Kind × Line) {first : List (Kind × List Line)}
    (nonEmpty : first ≠ []) (second : List (Kind × List Line)) :
    consGroup typed (first ++ second) = consGroup typed first ++ second := by
  cases first with
  | nil => exact absurd rfl nonEmpty
  | cons group rest =>
      obtain ⟨kind, lines⟩ := group
      rw [List.cons_append, consGroup, consGroup]
      split <;> simp

theorem consGroup_of_startsApart {typed : Kind × Line} {rest : List (Kind × Line)}
    (apart : StartsApart typed.1 rest) :
    consGroup typed (groupByKind rest) = (typed.1, [typed.2]) :: groupByKind rest := by
  have sameHead := head?_groupByKind rest
  generalize groupByKind rest = groups at sameHead ⊢
  cases groups with
  | nil => rfl
  | cons group others =>
      obtain ⟨kind, lines⟩ := group
      obtain ⟨first, isFirst, sameKind⟩ := Option.map_eq_some_iff.mp sameHead.symm
      have different : typed.1 ≠ kind := by
        intro same
        exact apart first isFirst (sameKind.trans same.symm)
      rw [consGroup, if_neg different]

theorem groupByKind_ne_nil {typed : List (Kind × Line)} (nonEmpty : typed ≠ []) :
    groupByKind typed ≠ [] := by
  intro empty
  have ungrouped := ungroup_groupByKind typed
  rw [empty] at ungrouped
  exact nonEmpty ungrouped.symm

theorem groupByKind_append {first second : List (Kind × Line)}
    (apart : ∀ last ∈ first.getLast?, StartsApart last.1 second) :
    groupByKind (first ++ second) = groupByKind first ++ groupByKind second := by
  induction first with
  | nil => rfl
  | cons typed rest ih =>
      rw [List.cons_append, groupByKind_cons, groupByKind_cons]
      cases rest with
      | nil =>
          rw [List.nil_append, consGroup_of_startsApart (apart typed rfl)]
          rfl
      | cons next others =>
          have apartRest : ∀ last ∈ (next :: others).getLast?, StartsApart last.1 second := by
            intro last isLast
            exact apart last (by rwa [List.getLast?_cons_cons])
          rw [ih apartRest, consGroup_append typed (groupByKind_ne_nil (by simp))]

theorem groupByKind_uniform (kind : Kind) {lines : List Line} (nonEmpty : lines ≠ []) :
    groupByKind (lines.map (kind, ·)) = [(kind, lines)] := by
  induction lines with
  | nil => exact absurd rfl nonEmpty
  | cons line rest ih =>
      rw [List.map_cons, groupByKind_cons]
      cases rest with
      | nil => rfl
      | cons next others => rw [ih (by simp), consGroup, if_pos rfl]

/-- A longest stretch of one kind is a group. -/
theorem groupByKind_of_stretch {kind : Kind} {lines : List Line} (nonEmpty : lines ≠ [])
    {before after : List (Kind × Line)} (apartBefore : EndsApart kind before)
    (apartAfter : StartsApart kind after) :
    groupByKind (before ++ (lines.map (kind, ·) ++ after)) =
      groupByKind before ++ (kind, lines) :: groupByKind after := by
  have beforeStretch : ∀ last ∈ before.getLast?,
      StartsApart last.1 (lines.map (kind, ·) ++ after) := by
    intro last isLast first isFirst same
    cases lines with
    | nil => exact nonEmpty rfl
    | cons line rest =>
        cases isFirst
        exact apartBefore last isLast same.symm
  have stretchAfter : ∀ last ∈ (lines.map (kind, ·)).getLast?, StartsApart last.1 after := by
    intro last isLast
    obtain ⟨line, -, rfl⟩ := List.mem_map.mp (List.mem_of_getLast? isLast)
    exact apartAfter
  rw [groupByKind_append beforeStretch, groupByKind_append stretchAfter,
    groupByKind_uniform kind nonEmpty, List.singleton_append]

/-! ## From groups to stretches -/

theorem isChain_consGroup {typed : Kind × Line} {groups : List (Kind × List Line)}
    (alternate : groups.IsChain (·.1 ≠ ·.1)) : (consGroup typed groups).IsChain (·.1 ≠ ·.1) := by
  cases groups with
  | nil => exact .singleton _
  | cons group rest =>
      obtain ⟨kind, lines⟩ := group
      rw [consGroup]
      split
      · cases rest with
        | nil => exact .singleton _
        | cons next others =>
            obtain ⟨different, tail⟩ := List.isChain_cons_cons.mp alternate
            exact List.isChain_cons_cons.mpr ⟨different, tail⟩
      · rename_i different
        exact List.isChain_cons_cons.mpr ⟨different, alternate⟩

theorem isChain_groupByKind (typed : List (Kind × Line)) :
    (groupByKind typed).IsChain (·.1 ≠ ·.1) := by
  induction typed with
  | nil => exact .nil
  | cons first rest ih => exact isChain_consGroup ih

@[simp] theorem ungroup_nil : ungroup [] = [] := rfl

@[simp] theorem ungroup_cons (group : Kind × List Line) (rest : List (Kind × List Line)) :
    ungroup (group :: rest) = group.2.map (group.1, ·) ++ ungroup rest := rfl

theorem ungroup_append (first second : List (Kind × List Line)) :
    ungroup (first ++ second) = ungroup first ++ ungroup second :=
  List.flatMap_append

theorem startsApart_ungroup {kind : Kind} {groups : List (Kind × List Line)}
    (nonEmpty : ∀ group ∈ groups, group.2 ≠ []) (apart : ∀ group ∈ groups.head?, kind ≠ group.1) :
    StartsApart kind (ungroup groups) := by
  cases groups with
  | nil => nofun
  | cons group rest =>
      obtain ⟨other, lines⟩ := group
      cases lines with
      | nil => exact absurd rfl (nonEmpty _ List.mem_cons_self)
      | cons line more =>
          intro first isFirst
          cases isFirst
          exact (apart _ rfl).symm

theorem endsApart_ungroup {kind : Kind} {groups : List (Kind × List Line)}
    (nonEmpty : ∀ group ∈ groups, group.2 ≠ [])
    (apart : ∀ group ∈ groups.getLast?, group.1 ≠ kind) :
    EndsApart kind (ungroup groups) := by
  rcases List.eq_nil_or_concat groups with rfl | ⟨others, group, rfl⟩
  · nofun
  · obtain ⟨other, lines⟩ := group
    have nonEmptyLines : lines ≠ [] := nonEmpty (other, lines) (by simp)
    have different : other ≠ kind := apart (other, lines) (by simp)
    intro last isLast
    rw [List.concat_eq_append, ungroup_append, ungroup_cons, ungroup_nil, List.append_nil,
      List.getLast?_append_of_ne_nil _ (by simpa using nonEmptyLines)] at isLast
    obtain ⟨line, -, rfl⟩ := List.mem_map.mp (List.mem_of_getLast? isLast)
    exact different

/-- A group is a longest stretch of its kind. -/
theorem stretch_of_groupByKind {typed : List (Kind × Line)} {before after : List (Kind × List Line)}
    {kind : Kind} {lines : List Line}
    (grouped : groupByKind typed = before ++ (kind, lines) :: after) :
    typed = ungroup before ++ (lines.map (kind, ·) ++ ungroup after) ∧ lines ≠ [] ∧
      EndsApart kind (ungroup before) ∧ StartsApart kind (ungroup after) := by
  have nonEmpty := ne_nil_of_mem_groupByKind typed
  have alternate := isChain_groupByKind typed
  have ungrouped := ungroup_groupByKind typed
  rw [grouped] at nonEmpty alternate ungrouped
  obtain ⟨-, chainAfter, apartBefore⟩ := List.isChain_append.mp alternate
  refine ⟨?_, nonEmpty (kind, lines) (by simp), ?_, ?_⟩
  · rw [← ungrouped, ungroup_append, ungroup_cons]
  · exact endsApart_ungroup (fun group member => nonEmpty group (by simp [member]))
      fun group isLast => apartBefore group isLast _ rfl
  · refine startsApart_ungroup (fun group member => nonEmpty group (by simp [member])) ?_
    intro group isFirst
    exact (List.isChain_cons.mp chainAfter).1 group isFirst

end ChangeImpact.Patch
