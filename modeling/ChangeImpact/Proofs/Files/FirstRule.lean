import ChangeImpact.Files.Framework
/-!
# The first rule that holds

A rule holds of a project if the manifest names its package and one of its entry files exists, or if
its marker exists. The first of the ten rules that holds gives the framework, and the first of its
entry files that exists is where the analyzer starts. A detection looks at nothing else: two
projects in which the rules find the same packages and the same files give the same answer, whatever
else their manifests hold.
-/
set_option autoImplicit false

namespace ChangeImpact.Framework

open Json (Members)

/-! ## The manifest -/

/-- The file at the path of the project's manifest holds an object with these members. -/
def HasManifest (workspace : Workspace) (root : Location) (members : Members) : Prop :=
  ∃ location content text,
    workspace.resolve (workspace.path (root.next "package.json")) = .ok location ∧
    workspace.find location = .file content ∧ Utf8.decode content = .ok text ∧
    Json.read (Lines.normalizeReturns text) = .ok (.object members)

/-- One of the two members for dependencies is an object that has the package as a key. -/
def DependsOn (members : Members) (package : Text) : Prop :=
  ∃ name ∈ ["dependencies", "devDependencies"], ∃ inner,
    Members.get? members (Text.ofString name) = some (.object inner) ∧ package ∈ Members.keys inner

theorem manifestMembers_eq_ok_iff (content : Utf8.Bytes) (members : Members) :
    manifestMembers content = .ok members ↔
      ∃ text, Utf8.decode content = .ok text ∧
        Json.read (Lines.normalizeReturns text) = .ok (.object members) := by
  unfold manifestMembers
  constructor
  · intro isRead
    split at isRead
    · cases isRead
    · rename_i text decoded
      split at isRead
      · cases isRead
      · rename_i found isObject
        cases isRead
        exact ⟨text, decoded, isObject⟩
      · cases isRead
  · rintro ⟨text, decoded, isObject⟩
    simp only [decoded, isObject]

theorem readManifest_eq_ok_iff (workspace : Workspace) (root : Location) (members : Members) :
    readManifest workspace root = .ok members ↔ HasManifest workspace root members := by
  unfold readManifest HasManifest
  constructor
  · intro isRead
    dsimp only at isRead
    split at isRead
    · cases isRead
    · cases isRead
    · cases isRead
    · rename_i location resolved
      split at isRead
      · cases isRead
      · cases isRead
      · cases isRead
      · rename_i content found
        obtain ⟨text, decoded, isObject⟩ := (manifestMembers_eq_ok_iff ..).mp isRead
        exact ⟨location, content, text, resolved, found, decoded, isObject⟩
  · rintro ⟨location, content, text, resolved, found, decoded, isObject⟩
    simp only [resolved, found]
    exact (manifestMembers_eq_ok_iff ..).mpr ⟨text, decoded, isObject⟩

theorem mem_sectionKeys_iff (members : Members) (name : String) (package : Text) :
    package ∈ sectionKeys members name ↔
      ∃ inner, Members.get? members (Text.ofString name) = some (.object inner) ∧
        package ∈ Members.keys inner := by
  unfold sectionKeys
  split
  · rename_i inner isObject
    simp [isObject]
  · rename_i notObject
    constructor
    · intro member
      cases member
    · rintro ⟨inner, isObject, -⟩
      exact absurd isObject (notObject inner)

theorem mem_dependencies_iff (members : Members) (package : Text) :
    package ∈ dependencies members ↔ DependsOn members package := by
  simp [dependencies, DependsOn, mem_sectionKeys_iff]

/-! ## One rule -/

namespace Rule

def framework : Rule → Framework
  | .package framework _ _ => framework
  | .marker framework _ _ => framework

def needed? : Rule → Option Text
  | .package _ needed _ => some needed
  | .marker _ _ _ => none

/-- The places of the project at which the rule looks. -/
def places : Rule → List (List Text)
  | .package _ _ entries => entries
  | .marker _ sign _ => [[sign]]

/-- The project has what the rule asks for. -/
def Holds (workspace : Workspace) (root : Location) (members : Members) (rule : Rule) : Prop :=
  (∀ package ∈ rule.needed?, DependsOn members package) ∧
    ∃ place ∈ rule.places, workspace.exists? (root.down place) = true

/-- Where the analyzer starts by the rule: at the first entry file that exists, or at the one that
goes with the marker. -/
def StartsAt (workspace : Workspace) (root : Location) : Rule → Location → Prop
  | .package _ _ entries, start =>
      ∃ before entry after, entries = before ++ entry :: after ∧ start = root.down entry ∧
        workspace.exists? (root.down entry) = true ∧
        ∀ other ∈ before, workspace.exists? (root.down other) = false
  | .marker _ _ entry, start => start = root.down entry

variable {workspace : Workspace} {root : Location} {members : Members}

theorem contains_dependencies_iff (members : Members) (needed : String) :
    (dependencies members).contains (Text.ofString needed) = true ↔ DependsOn members needed := by
  rw [List.contains_iff_mem, mem_dependencies_iff]

theorem find?_eq_none_iff (rule : Rule) :
    rule.find? workspace root (dependencies members) = none ↔
      ¬ rule.Holds workspace root members := by
  cases rule with
  | package framework needed entries =>
      have named_iff := contains_dependencies_iff members needed
      by_cases named : DependsOn members needed
      · rw [find?, if_pos (named_iff.mpr named), Option.map_eq_none_iff, List.find?_eq_none]
        simp [Holds, needed?, places, named]
      · rw [find?, if_neg (mt named_iff.mp named)]
        simp [Holds, needed?, named]
  | marker framework sign entry => simp [find?, Holds, needed?, places, Location.down]

theorem find?_eq_some_iff (rule : Rule) (detected : Detected) :
    rule.find? workspace root (dependencies members) = some detected ↔
      rule.Holds workspace root members ∧ rule.framework = detected.framework ∧
        rule.StartsAt workspace root detected.entry := by
  obtain ⟨found, start⟩ := detected
  -- A rule that does not hold finds nothing, so each side gives that the rule holds.
  by_cases holds : rule.Holds workspace root members
  · cases rule with
    | package framework needed entries =>
        have named := (contains_dependencies_iff members needed).mpr (holds.1 needed rfl)
        rw [find?, if_pos named, Option.map_eq_some_iff]
        constructor
        · rintro ⟨entry, isFirst, same⟩
          cases same
          obtain ⟨isThere, before, after, areEntries, missing⟩ :=
            List.find?_eq_some_iff_append.mp isFirst
          exact ⟨holds, rfl, before, entry, after, areEntries, rfl, isThere, by simpa using missing⟩
        · rintro ⟨-, rfl, before, entry, after, areEntries, rfl, isThere, missing⟩
          exact ⟨entry, List.find?_eq_some_iff_append.mpr
            ⟨isThere, before, after, areEntries, by simpa using missing⟩, rfl⟩
    | marker framework sign entry =>
        obtain ⟨-, place, isSign, isThere⟩ := id holds
        cases List.mem_singleton.mp isSign
        have marked : workspace.exists? (root.next sign) = true := isThere
        rw [find?, if_pos marked]
        simp [holds, StartsAt, Rule.framework, eq_comm]
  · simp [holds, (find?_eq_none_iff rule).mpr holds]

end Rule

/-! ## All rules -/

variable {workspace other : Workspace} {root : Location} {members otherMembers : Members}

/-- The rule holds and none before it does. -/
def IsFirst (workspace : Workspace) (root : Location) (members : Members) (rule : Rule) : Prop :=
  ∃ before after, rules = before ++ rule :: after ∧ rule.Holds workspace root members ∧
    ∀ earlier ∈ before, ¬ earlier.Holds workspace root members

theorem findSome?_rules_eq_some_iff (detected : Detected) :
    rules.findSome? (Rule.find? workspace root (dependencies members)) = some detected ↔
      ∃ rule, IsFirst workspace root members rule ∧ rule.framework = detected.framework ∧
        rule.StartsAt workspace root detected.entry := by
  rw [List.findSome?_eq_some_iff]
  constructor
  · rintro ⟨before, rule, after, areRules, found, none⟩
    obtain ⟨holds, same, starts⟩ := (Rule.find?_eq_some_iff ..).mp found
    exact ⟨rule, ⟨before, after, areRules, holds,
      fun earlier member => (Rule.find?_eq_none_iff earlier).mp (none earlier member)⟩,
      same, starts⟩
  · rintro ⟨rule, ⟨before, after, areRules, holds, none⟩, same, starts⟩
    exact ⟨before, rule, after, areRules, (Rule.find?_eq_some_iff ..).mpr ⟨holds, same, starts⟩,
      fun earlier member => (Rule.find?_eq_none_iff earlier).mpr (none earlier member)⟩

theorem findSome?_rules_eq_none_iff :
    rules.findSome? (Rule.find? workspace root (dependencies members)) = none ↔
      ∀ rule ∈ rules, ¬ rule.Holds workspace root members := by
  rw [List.findSome?_eq_none_iff]
  simp only [Rule.find?_eq_none_iff]

theorem detect_eq_of_hasManifest (has : HasManifest workspace root members) :
    detect workspace root =
      (rules.findSome? (Rule.find? workspace root (dependencies members))).elim
        (.error (.noFramework (workspace.path root) Failure.unknownFramework)) .ok := by
  unfold detect
  simp only [(readManifest_eq_ok_iff ..).mpr has]
  split
  · rename_i found
    rw [found]
    rfl
  · rename_i notFound
    rw [notFound]
    rfl

theorem detect_eq_ok_iff (has : HasManifest workspace root members) (detected : Detected) :
    detect workspace root = .ok detected ↔
      ∃ rule, IsFirst workspace root members rule ∧ rule.framework = detected.framework ∧
        rule.StartsAt workspace root detected.entry := by
  rw [detect_eq_of_hasManifest has, ← findSome?_rules_eq_some_iff]
  cases rules.findSome? (Rule.find? workspace root (dependencies members)) <;> simp

theorem detect_eq_error_iff (has : HasManifest workspace root members) (failure : Failure) :
    detect workspace root = .error failure ↔
      failure = .noFramework (workspace.path root) Failure.unknownFramework ∧
        ∀ rule ∈ rules, ¬ rule.Holds workspace root members := by
  rw [detect_eq_of_hasManifest has, ← findSome?_rules_eq_none_iff]
  cases rules.findSome? (Rule.find? workspace root (dependencies members)) <;> simp [eq_comm]

/-! ## What a detection looks at -/

def rulePackages : List Text :=
  rules.filterMap Rule.needed?

def rulePlaces : List (List Text) :=
  rules.flatMap Rule.places

/-- Two projects name the same of the rules' packages and have something at the same of the rules'
places. -/
structure SameSigns (workspace other : Workspace) (root : Location)
    (members otherMembers : Members) :
    Prop where
  packages : ∀ package ∈ rulePackages, DependsOn members package ↔ DependsOn otherMembers package
  places : ∀ place ∈ rulePlaces,
    workspace.exists? (root.down place) = other.exists? (root.down place)

namespace SameSigns

variable {rule : Rule}

theorem exists?_eq (same : SameSigns workspace other root members otherMembers)
    (isRule : rule ∈ rules) {place : List Text} (isPlace : place ∈ rule.places) :
    workspace.exists? (root.down place) = other.exists? (root.down place) :=
  same.places place (List.mem_flatMap.mpr ⟨rule, isRule, isPlace⟩)

theorem holds_iff (same : SameSigns workspace other root members otherMembers)
    (isRule : rule ∈ rules) :
    rule.Holds workspace root members ↔ rule.Holds other root otherMembers := by
  apply and_congr
  · refine forall₂_congr fun package isNeeded => same.packages package ?_
    exact List.mem_filterMap.mpr ⟨rule, isRule, isNeeded⟩
  · refine exists_congr fun place => and_congr_right fun isPlace => ?_
    rw [same.exists?_eq isRule isPlace]

theorem startsAt_iff (same : SameSigns workspace other root members otherMembers)
    (isRule : rule ∈ rules) (start : Location) :
    rule.StartsAt workspace root start ↔ rule.StartsAt other root start := by
  cases rule with
  | package framework needed entries =>
      refine exists₃_congr fun before entry after => and_congr_right fun areEntries => ?_
      have isEntry : entry ∈ entries := by simp [areEntries]
      -- The entry files that are passed over are looked at too, so the projects have to agree on
      -- them as well.
      have areEarlier : ∀ earlier ∈ before, earlier ∈ entries := by simp +contextual [areEntries]
      refine and_congr_right fun _ => and_congr ?_ (forall₂_congr fun earlier isEarlier => ?_)
      · rw [same.exists?_eq isRule isEntry]
      · rw [same.exists?_eq isRule (areEarlier earlier isEarlier)]
  | marker framework sign entry => exact Iff.rfl

theorem isFirst_iff (same : SameSigns workspace other root members otherMembers) :
    IsFirst workspace root members rule ↔ IsFirst other root otherMembers rule := by
  refine exists₂_congr fun before after => and_congr_right fun areRules => ?_
  have isRule : rule ∈ rules := by simp [areRules]
  have areEarlier : ∀ earlier ∈ before, earlier ∈ rules := by simp +contextual [areRules]
  exact and_congr (same.holds_iff isRule) (forall₂_congr fun earlier isEarlier =>
    not_congr (same.holds_iff (areEarlier earlier isEarlier)))

theorem findSome?_rules_eq (same : SameSigns workspace other root members otherMembers) :
    rules.findSome? (Rule.find? workspace root (dependencies members)) =
      rules.findSome? (Rule.find? other root (dependencies otherMembers)) := by
  apply Option.ext
  intro detected
  rw [findSome?_rules_eq_some_iff, findSome?_rules_eq_some_iff]
  refine exists_congr fun rule => ?_
  rw [same.isFirst_iff]
  refine and_congr_right fun isFirst => and_congr_right fun _ => ?_
  obtain ⟨before, after, areRules, -⟩ := isFirst
  exact same.startsAt_iff (by simp [areRules]) detected.entry

end SameSigns

theorem path_eq_of_root_eq (sameRoot : workspace.root = other.root) (location : Location) :
    workspace.path location = other.path location := by
  cases location with
  | near levels place => rw [Workspace.path, Workspace.path, sameRoot]
  | system place => rfl

theorem detect_ends (workspace : Workspace) (root : Location) :
    (∃ detected members, detect workspace root = .ok detected ∧
      HasManifest workspace root members) ∨
      ∃ reason, detect workspace root = .error (.noFramework (workspace.path root) reason) := by
  unfold detect
  split
  · exact .inr ⟨_, rfl⟩
  · rename_i members isRead
    split
    · exact .inl ⟨_, members, rfl, (readManifest_eq_ok_iff ..).mp isRead⟩
    · exact .inr ⟨_, rfl⟩

/-- A detection gives a framework, for which the manifest has to hold an object, or fails for want
of one, and in no other way. With such a manifest the first rule that holds gives the framework and
where to start, and only if none holds does the detection fail. So it ends alike in any other
project at the same path that shows the rules the same packages and files. -/
theorem detect_finds_first_rule (workspace : Workspace) (root : Location) :
    (rules.map fun rule => rule.framework.name) =
      ["NestJS", "Adonis", "Loopback", "Meteor", "Sails", "Feathers", "Hapi", "Koa",
        "Fastify", "Express"] ∧
    ((∃ detected members, detect workspace root = .ok detected ∧
      HasManifest workspace root members) ∨
      ∃ reason, detect workspace root = .error (.noFramework (workspace.path root) reason)) ∧
    (∀ path, workspace.locate path = root → .char '\x00' ∉ path →
      detectAt workspace path = detect workspace root) ∧
    ∀ members, HasManifest workspace root members →
      (∀ detected, detect workspace root = .ok detected ↔
        ∃ rule, IsFirst workspace root members rule ∧ rule.framework = detected.framework ∧
          rule.StartsAt workspace root detected.entry) ∧
      (∀ failure, detect workspace root = .error failure ↔
        failure = .noFramework (workspace.path root) Failure.unknownFramework ∧
          ∀ rule ∈ rules, ¬ rule.Holds workspace root members) ∧
      ∀ other otherMembers, workspace.root = other.root → HasManifest other root otherMembers →
        SameSigns workspace other root members otherMembers →
        detect workspace root = detect other root := by
  refine ⟨rfl, detect_ends workspace root, ?_, fun members has =>
    ⟨detect_eq_ok_iff has, detect_eq_error_iff has, ?_⟩⟩
  · rintro path rfl noNull
    rw [detectAt, if_neg (by simpa using noNull)]
  · intro other otherMembers sameRoot hasOther same
    rw [detect_eq_of_hasManifest has, detect_eq_of_hasManifest hasOther, same.findSome?_rules_eq,
      path_eq_of_root_eq sameRoot]

def projectOf (manifest entry : Text) : Workspace where
  root := "/p"
  above := "/"
  entries := [(["package.json"], .file (manifest.map fun point => UInt8.ofNat point.code)),
    ([entry], .file [])]
  system := []

/-- Two packages of rules, of which the first to be tried lacks its entry file. -/
def koaAndExpress : Workspace :=
  projectOf "\x7b\"dependencies\":\x7b\"koa\":\"2\",\"express\":\"4\"\x7d\x7d" "index.js"

/-- The same packages in two members, in another order, with other versions. -/
def scattered : Workspace :=
  projectOf
    "\x7b\"devDependencies\":\x7b\"koa\":\"\"\x7d,\"dependencies\":\x7b\"express\":\"*\"\x7d\x7d"
    "index.js"

theorem exists_hasManifest {workspace : Workspace} {root : Location} {packages : List Text}
    (isRead : (readManifest workspace root).toOption.map dependencies = some packages) :
    ∃ members, HasManifest workspace root members ∧ dependencies members = packages := by
  cases ends : readManifest workspace root with
  | error error =>
      rw [ends] at isRead
      cases isRead
  | ok members =>
      rw [ends] at isRead
      cases isRead
      exact ⟨members, (readManifest_eq_ok_iff ..).mp ends, rfl⟩

theorem detect_finds_scattered :
    ∃ members otherMembers, HasManifest koaAndExpress (.inside []) members ∧
      HasManifest scattered (.inside []) otherMembers ∧
      SameSigns koaAndExpress scattered (.inside []) members otherMembers ∧
      (∃ rule, IsFirst koaAndExpress (.inside []) members rule ∧ rule.framework = express ∧
        rule.StartsAt koaAndExpress (.inside []) (.inside ["index.js"])) ∧
      detect koaAndExpress (.inside []) = detect scattered (.inside []) := by
  have isRead : (readManifest koaAndExpress (.inside [])).toOption.map dependencies =
      some [↑"koa", ↑"express"] := by decide +kernel
  have isReadOther : (readManifest scattered (.inside [])).toOption.map dependencies =
      some [↑"express", ↑"koa"] := by decide +kernel
  obtain ⟨members, has, named⟩ := exists_hasManifest isRead
  obtain ⟨otherMembers, hasOther, namedOther⟩ := exists_hasManifest isReadOther
  have same : SameSigns koaAndExpress scattered (.inside []) members otherMembers := by
    refine ⟨fun package _ => ?_, by decide +kernel⟩
    rw [← mem_dependencies_iff, ← mem_dependencies_iff, named, namedOther]
    simp [or_comm]
  have found : rules.findSome? (Rule.find? koaAndExpress (.inside []) [↑"koa", ↑"express"]) =
      some ⟨express, .inside ["index.js"]⟩ := by decide +kernel
  have detected : detect koaAndExpress (.inside []) = .ok ⟨express, .inside ["index.js"]⟩ := by
    rw [detect_eq_of_hasManifest has, named, found]
    rfl
  have sameRoot : koaAndExpress.root = scattered.root := by
    rw [koaAndExpress, scattered, projectOf, projectOf]
  obtain ⟨-, -, -, ofManifest⟩ := detect_finds_first_rule koaAndExpress (.inside [])
  obtain ⟨ok_iff, -, alike⟩ := ofManifest members has
  have first := (ok_iff ⟨express, .inside ["index.js"]⟩).mp detected
  exact ⟨members, otherMembers, has, hasOther, same, first,
    alike scattered otherMembers sameRoot hasOther same⟩

end ChangeImpact.Framework
