import Seidrum.Daemon.Packages
import Seidrum.Foundation.PostOrder

/-!
# Packages that depend on packages

Installing a bundle installs its dependencies one after the other, each as if it were asked for, and then
records the bundle.  Nothing is kept of what is being installed or was installed before.  What plugins
and agents depend on is not installed.
-/

namespace Seidrum.Daemon.PackageGraph

open Foundation Packages

structure PackageDependency where
  name : String
  version : Option String

def PackageDependency.reference (dep : PackageDependency) : String :=
  match dep.version with
  | some version => dep.name ++ "@" ++ version
  | none => dep.name

structure DependentManifest extends PackageManifest where
  kind : PackageKind
  dependencies : List PackageDependency

/-- The packages in the directories of a disk. -/
structure LocalPackages (π : Type*) where
  /-- The package that a path leads to, if the directory has a manifest. -/
  locate : String → Option π
  /-- The manifest of a package, if it can be read and parsed. -/
  manifest : π → Except String DependentManifest

inductive InstallOutcome
  | installed
  | cancelled
  | failed (error : String)

/-- What the installation meets: what the files and the record of one package come to, after other
packages, and what the user says. -/
structure InstallEnv (π : Type*) where
  perform : List π → π → Except String Unit
  confirm : Except String Bool

section

variable {π : Type*} (sources : LocalPackages π) (env : InstallEnv π)

def isUrl (reference : String) : Bool :=
  (["http://", "https://", "git@"].any fun start ↦ start.toList.isPrefixOf reference.toList) ||
    ".git".toList.isSuffixOf reference.toList

def resolvePackage (reference : String) : Except String (π × DependentManifest) :=
  if isUrl reference then
    .error ("HTTP package resolution not yet implemented. URL: " ++ reference)
  else
    match sources.locate reference with
    | some package => (sources.manifest package).map fun manifest ↦ (package, manifest)
    | none =>
        .error ("Registry-based package resolution not yet implemented. " ++
          "Use direct URL or local path install instead: seidrum pkg install /path/to/package")

/-- Install what a package itself consists of, and record it. -/
def finish (package : π) (log : List π) : InstallOutcome × List π :=
  match env.perform log package with
  | .ok () => (.installed, log ++ [package])
  | .error error => (.failed error, log)

/-- A failure ends the installation of a bundle. -/
def conclude (package : π) : InstallOutcome × List π → InstallOutcome × List π
  | (.failed error, log) => (.failed error, log)
  | (_, log) => finish env package log

/-- Install the dependencies of a bundle in their order. -/
def installBundle (install : String → List π → Option (InstallOutcome × List π)) :
    List String → List π → Option (InstallOutcome × List π)
  | [], log => some (.installed, log)
  | reference :: rest, log =>
      (install reference log).bind fun
        | (.failed error, log) => some (.failed error, log)
        | (_, log) => installBundle install rest log

/-- The outcome of a call that nests calls up to a depth, and the log of the packages installed. -/
def install : ℕ → Bool → String → List π → Option (InstallOutcome × List π)
  | 0, _, _, _ => none
  | depth + 1, yes, reference, log =>
      match resolvePackage sources reference with
      | .error error => some (.failed error, log)
      | .ok (package, manifest) =>
          match if yes then .ok true else env.confirm with
          | .error error => some (.failed error, log)
          | .ok false => some (.cancelled, log)
          | .ok true =>
              match manifest.kind with
              | .bundle =>
                  (installBundle (install depth true)
                    (manifest.dependencies.map PackageDependency.reference) log).map
                    (conclude env package)
              | _ => some (finish env package log)

/-- The package that a reference is resolved to. -/
def found (reference : String) : Option π := (resolvePackage sources reference).toOption.map Prod.fst

/-- The references of what a package depends on. -/
def references (package : π) : List String :=
  match sources.manifest package with
  | .ok manifest => manifest.dependencies.map PackageDependency.reference
  | .error _ => []

/-- The references of what is installed with a package. -/
def bundled (package : π) : List String :=
  match sources.manifest package with
  | .ok manifest =>
      match manifest.kind with
      | .bundle => manifest.dependencies.map PackageDependency.reference
      | _ => []
  | .error _ => []

def DependsOn (package dependency : π) : Prop :=
  ∃ reference ∈ references sources package, found sources reference = some dependency

/-- The packages that are installed with a package. -/
def parts (package : π) : List π := (bundled sources package).filterMap (found sources)

/-- Each package that one depends on is installed once, and after what it depends on. -/
structure OnceInOrder (package : π) (log : List π) : Prop where
  once : log.Nodup
  all : ∀ other, other ∈ log ↔ Relation.ReflTransGen (DependsOn sources) package other
  ordered : ∀ before other after, log = before ++ other :: after →
    ∀ dependency, DependsOn sources other dependency → dependency ∈ before

/-- Installing ends, whatever single packages come to, and installs each package once if it succeeds. -/
def InstallsOnce (reference : String) (package : π) : Prop :=
  ∀ env yes, ∃ depth outcome log,
    install sources env depth yes reference [] = some (outcome, log) ∧
      (outcome = .installed → OnceInOrder sources package log)

/-- Every chain of bundles ends, and what they name is found. -/
inductive Complete : π → Prop
  | intro (package : π)
      (hfound : ∀ reference ∈ bundled sources package, (found sources reference).isSome)
      (h : ∀ part ∈ parts sources package, Complete part) : Complete package

def Completes (reference : String) : Prop :=
  ∃ part, found sources reference = some part ∧ Complete sources part

/-- A reference that is not found comes before any chain of bundles that does not end. -/
inductive Blocked : π → Prop
  | missing {package : π} {left right : List String} {reference : String}
      (hparts : bundled sources package = left ++ reference :: right)
      (hleft : ∀ other ∈ left, Completes sources other)
      (h : found sources reference = none) : Blocked package
  | part {package part : π} {left right : List String} {reference : String}
      (hparts : bundled sources package = left ++ reference :: right)
      (hleft : ∀ other ∈ left, Completes sources other)
      (hfound : found sources reference = some part) (h : Blocked part) : Blocked package

/-- No two chains of bundles lead to one package. -/
def SingleChains (package : π) : Prop :=
  ∀ path other target, Leads (parts sources) package path target →
    Leads (parts sources) package other target → path = other

/-- What a plugin or an agent depends on is reached by an earlier chain of bundles. -/
def LeavesLater (package : π) : Prop :=
  ∀ path leaf manifest, Leads (parts sources) package path leaf →
    sources.manifest leaf = .ok manifest → manifest.kind ≠ .bundle →
    ∀ dependency, DependsOn sources leaf dependency →
      ∃ other, Leads (parts sources) package other dependency ∧ Earlier other path

end

variable {π : Type*} {sources : LocalPackages π} {env : InstallEnv π}

variable {references : List String} {log : List π} {result : InstallOutcome × List π} {depth : ℕ} {yes : Bool}
  {reference : String} {deeper : ℕ} {package : π} {left : List String} {outcome : InstallOutcome}
  {after : List π} {dependency : π}

theorem installBundle_mono {f g : String → List π → Option (InstallOutcome × List π)}
    (h : ∀ reference log result, f reference log = some result → g reference log = some result)
    (hbundle : installBundle f references log = some result) :
    installBundle g references log = some result := by
  induction references generalizing log with
  | nil => exact hbundle
  | cons reference rest ih =>
    obtain ⟨⟨outcome, after⟩, hfirst, hrest⟩ := Option.bind_eq_some_iff.mp hbundle
    refine Option.bind_eq_some_iff.mpr ⟨(outcome, after), h _ _ _ hfirst, ?_⟩
    cases outcome with
    | failed error => exact hrest
    | installed | cancelled => exact ih hrest

theorem install_succ (h : install sources env depth yes reference log = some result) :
    install sources env (depth + 1) yes reference log = some result := by
  induction depth generalizing yes reference log result with
  | zero => cases h
  | succ depth ih =>
    unfold install at h ⊢
    cases hresolve : resolvePackage sources reference with
    | error error => rwa [hresolve] at h
    | ok resolved =>
      obtain ⟨package, manifest⟩ := resolved
      simp only [hresolve] at h ⊢
      split at h
      · exact h
      · exact h
      · split at h
        · obtain ⟨before, hbundle, rfl⟩ := Option.map_eq_some_iff.mp h
          exact Option.map_eq_some_iff.mpr
            ⟨before, installBundle_mono (fun _ _ _ hinstall ↦ ih hinstall) hbundle, rfl⟩
        · exact h

theorem install_mono (hle : depth ≤ deeper) (h : install sources env depth yes reference log = some result) :
    install sources env deeper yes reference log = some result := by
  induction hle with
  | refl => exact h
  | step _ ih => exact install_succ ih

theorem install_unique {other : InstallOutcome × List π}
    (h : install sources env depth yes reference log = some result)
    (hother : install sources env deeper yes reference log = some other) : result = other := by
  rcases Nat.le_total depth deeper with hle | hle
  · exact Option.some.inj ((install_mono hle h).symm.trans hother)
  · exact Option.some.inj (h.symm.trans (install_mono hle hother))

theorem exists_of_found (h : found sources reference = some package) :
    ∃ manifest, resolvePackage sources reference = .ok (package, manifest) ∧
      sources.manifest package = .ok manifest := by
  obtain ⟨⟨other, manifest⟩, hresolve, rfl⟩ := Option.map_eq_some_iff.mp h
  have hok : resolvePackage sources reference = .ok (other, manifest) := by
    cases hresult : resolvePackage sources reference with
    | error error => rw [hresult] at hresolve; cases hresolve
    | ok resolved => rw [hresult] at hresolve; exact congrArg _ (Option.some.inj hresolve)
  refine ⟨manifest, hok, ?_⟩
  unfold resolvePackage at hok
  split_ifs at hok
  cases hlocate : sources.locate reference with
  | none => rw [hlocate] at hok; cases hok
  | some package =>
    rw [hlocate] at hok
    cases hmanifest : sources.manifest package with
    | error error => simp only [hmanifest] at hok; cases hok
    | ok read =>
      simp only [hmanifest] at hok
      obtain ⟨rfl, rfl⟩ := Prod.mk.inj (Except.ok.inj hok)
      exact hmanifest

theorem install_found (h : found sources reference = some package) (depth : ℕ) (log : List π) :
    install sources env (depth + 1) true reference log =
      (installBundle (install sources env depth true) (bundled sources package) log).map
        (conclude env package) := by
  obtain ⟨manifest, hresolve, hmanifest⟩ := exists_of_found h
  simp only [install, hresolve, bundled, hmanifest, if_true]
  cases hkind : manifest.kind <;> rfl

theorem install_not_found (env : InstallEnv π) (h : found sources reference = none) (depth : ℕ)
    (log : List π) :
    ∃ error, install sources env (depth + 1) true reference log = some (.failed error, log) := by
  cases hresolve : resolvePackage sources reference with
  | error error => exact ⟨error, by simp only [install, hresolve]⟩
  | ok resolved => simp [found, hresolve, Except.toOption] at h

/-- A user who is asked may agree; else nothing is installed. -/
theorem install_asked (env : InstallEnv π) (h : found sources reference = some package) (yes : Bool)
    (log : List π) :
    (∀ depth, install sources env (depth + 1) yes reference log =
        install sources env (depth + 1) true reference log) ∨
      ∃ outcome, outcome ≠ .installed ∧
        install sources env 1 yes reference log = some (outcome, log) := by
  obtain ⟨manifest, hresolve, -⟩ := exists_of_found h
  cases yes with
  | true => exact .inl fun _ ↦ rfl
  | false =>
    cases hconfirm : env.confirm with
    | error error => exact .inr ⟨.failed error, nofun, by simp [install, hresolve, hconfirm]⟩
    | ok agrees =>
      cases agrees with
      | true => exact .inl fun depth ↦ by simp [install, hresolve, hconfirm]
      | false => exact .inr ⟨.cancelled, nofun, by simp [install, hresolve, hconfirm]⟩

/-- Every single package is installed. -/
def InstallEnv.Succeeds (env : InstallEnv π) : Prop := ∀ log package, env.perform log package = .ok ()

/-- The result of a walk that visits packages: it may fail, and installs them all if it does not. -/
structure WalkResult (env : InstallEnv π) (log visits : List π) (result : InstallOutcome × List π) :
    Prop where
  asked : result.1 ≠ .cancelled
  log_eq : result.1 = .installed → result.2 = log ++ visits
  installed : env.Succeeds → result.1 = .installed

theorem WalkResult.conclude {visits : List π} (h : WalkResult env log visits result) (package : π) :
    WalkResult env log (visits ++ [package]) (conclude env package result) := by
  obtain ⟨outcome, after⟩ := result
  cases outcome with
  | failed error => exact ⟨nofun, nofun, fun hsucceeds ↦ nomatch h.installed hsucceeds⟩
  | cancelled => exact absurd rfl h.asked
  | installed =>
    obtain rfl := h.log_eq rfl
    simp only [PackageGraph.conclude, finish]
    cases hperform : env.perform (log ++ visits) package with
    | error error =>
      exact ⟨nofun, nofun, fun hsucceeds ↦ nomatch (hsucceeds _ _).symm.trans hperform⟩
    | ok _ => exact ⟨nofun, fun _ ↦ List.append_assoc _ _ _, fun _ ↦ rfl⟩

/-- Installing a bundle's parts visits what each of them visits. -/
theorem installBundle_walks {visits : π → List π}
    (h : ∀ reference ∈ references, ∃ part, found sources reference = some part ∧
      ∀ log, ∃ depth result, install sources env depth true reference log = some result ∧
        WalkResult env log (visits part) result) (log : List π) :
    ∃ depth result, installBundle (install sources env depth true) references log = some result ∧
      WalkResult env log ((references.filterMap (found sources)).flatMap visits) result := by
  induction references generalizing log with
  | nil => exact ⟨0, _, rfl, nofun, fun _ ↦ (List.append_nil log).symm, fun _ ↦ rfl⟩
  | cons reference rest ih =>
    obtain ⟨⟨part, hpart, hwalks⟩, hrest⟩ := List.forall_mem_cons.mp h
    obtain ⟨depth, ⟨outcome, after⟩, hinstall, hfirst⟩ := hwalks log
    rw [List.filterMap_cons_some hpart, List.flatMap_cons]
    cases outcome with
    | cancelled => exact absurd rfl hfirst.asked
    | failed error =>
      exact ⟨depth, (.failed error, after), by rw [installBundle, hinstall]; rfl, nofun, nofun,
        fun hsucceeds ↦ nomatch hfirst.installed hsucceeds⟩
    | installed =>
      obtain rfl := hfirst.log_eq rfl
      obtain ⟨deeper, result, hbundle, hresult⟩ := ih hrest (log ++ visits part)
      refine ⟨max depth deeper, result, ?_, hresult.asked, fun heq ↦ ?_, hresult.installed⟩
      · rw [installBundle, install_mono (le_max_left depth deeper) hinstall]
        exact installBundle_mono (fun _ _ _ ↦ install_mono (le_max_right depth deeper)) hbundle
      · rw [hresult.log_eq heq, List.append_assoc]

/-- A complete package is visited with all chains below it, whatever single packages come to. -/
theorem Complete.walks (h : Complete sources package) :
    ∃ visits, PostOrder (parts sources) package visits ∧
      ∀ reference, found sources reference = some package → ∀ env log, ∃ depth result,
        install sources env depth true reference log = some result ∧
          WalkResult env log (visits.map Prod.snd) result := by
  induction h with
  | intro package hfound _ ih =>
    choose! visits hvisits hwalks using ih
    refine ⟨_, PostOrder.of_children hvisits, fun reference hreference env log ↦ ?_⟩
    have hparts : ∀ reference ∈ bundled sources package, ∃ part,
        found sources reference = some part ∧ ∀ log, ∃ depth result,
          install sources env depth true reference log = some result ∧
            WalkResult env log ((visits part).map Prod.snd) result := by
      intro reference hmem
      obtain ⟨part, hpart⟩ := Option.isSome_iff_exists.mp (hfound reference hmem)
      exact ⟨part, hpart, hwalks part (List.mem_filterMap.mpr ⟨reference, hmem, hpart⟩) reference
        hpart env⟩
    obtain ⟨depth, result, hbundle, hresult⟩ := installBundle_walks hparts log
    refine ⟨depth + 1, conclude env package result, ?_, ?_⟩
    · rw [install_found hreference, hbundle, Option.map_some]
    · rw [List.map_append, map_snd_below]
      exact hresult.conclude package

/-- A part that cannot be installed fails the bundle. -/
theorem installBundle_fails (right : List String) (hleft : ∀ other ∈ left, Completes sources other)
    (hfails : ∀ log, ∃ depth error after,
      install sources env depth true reference log = some (.failed error, after)) (log : List π) :
    ∃ depth error after, installBundle (install sources env depth true)
      (left ++ reference :: right) log = some (.failed error, after) := by
  induction left generalizing log with
  | nil =>
    obtain ⟨depth, error, after, hinstall⟩ := hfails log
    exact ⟨depth, error, after, by rw [List.nil_append, installBundle, hinstall]; rfl⟩
  | cons first rest ih =>
    obtain ⟨⟨part, hpart, hcomplete⟩, hrest⟩ := List.forall_mem_cons.mp hleft
    obtain ⟨visits, -, hwalks⟩ := hcomplete.walks
    obtain ⟨depth, ⟨outcome, after⟩, hinstall, hresult⟩ := hwalks first hpart env log
    cases outcome with
    | cancelled => exact absurd rfl hresult.asked
    | failed error =>
      exact ⟨depth, error, after, by rw [List.cons_append, installBundle, hinstall]; rfl⟩
    | installed =>
      obtain ⟨deeper, error, last, hbundle⟩ := ih hrest after
      refine ⟨max depth deeper, error, last, ?_⟩
      rw [List.cons_append, installBundle, install_mono (le_max_left depth deeper) hinstall]
      exact installBundle_mono (fun _ _ _ ↦ install_mono (le_max_right depth deeper)) hbundle

theorem Blocked.fails (h : Blocked sources package) (hfound : found sources reference = some package)
    (env : InstallEnv π) (log : List π) :
    ∃ depth error after,
      install sources env depth true reference log = some (.failed error, after) := by
  have hnode {package : π} {left right : List String} {other reference : String} {log : List π}
      (hparts : bundled sources package = left ++ other :: right)
      (hleft : ∀ other ∈ left, Completes sources other)
      (hother : ∀ log, ∃ depth error after,
        install sources env depth true other log = some (.failed error, after))
      (hfound : found sources reference = some package) : ∃ depth error after,
        install sources env depth true reference log = some (.failed error, after) := by
    obtain ⟨depth, error, after, hbundle⟩ := installBundle_fails right hleft hother log
    exact ⟨depth + 1, error, after, by rw [install_found hfound, hparts, hbundle]; rfl⟩
  induction h generalizing reference log with
  | missing hparts hleft hmissing =>
    refine hnode hparts hleft (fun log ↦ ?_) hfound
    obtain ⟨error, hinstall⟩ := install_not_found env hmissing 0 log
    exact ⟨1, error, log, hinstall⟩
  | part hparts hleft hpart _ ih => exact hnode hparts hleft (fun log ↦ ih hpart log) hfound

/-- What a result says of the package, if every single package is installed. -/
def Explains (sources : LocalPackages π) (package : π) : InstallOutcome → Prop
  | .installed => Complete sources package
  | .failed _ => Blocked sources package
  | .cancelled => False

/-- The parts before the first one that fails are complete. -/
theorem explains_bundle
    (ih : ∀ reference part log outcome after, found sources reference = some part →
      install sources env depth true reference log = some (outcome, after) →
      Explains sources part outcome) (hparts : bundled sources package = left ++ references)
    (hleft : ∀ other ∈ left, Completes sources other)
    (h : installBundle (install sources env depth true) references log = some (outcome, after)) :
    (outcome = .installed ∧ ∀ other ∈ bundled sources package, Completes sources other) ∨
      (∃ error, outcome = .failed error) ∧ Blocked sources package := by
  induction references generalizing left log with
  | nil =>
    obtain ⟨rfl, -⟩ := Prod.mk.inj (Option.some.inj h)
    rw [List.append_nil] at hparts
    exact .inl ⟨rfl, hparts ▸ hleft⟩
  | cons reference rest ihrest =>
    obtain ⟨⟨first, next⟩, hfirst, hnext⟩ := Option.bind_eq_some_iff.mp h
    cases hfound : found sources reference with
    | none =>
      cases depth with
      | zero => cases hfirst
      | succ depth =>
        obtain ⟨error, hmissing⟩ := install_not_found env hfound depth log
        obtain ⟨rfl, rfl⟩ := Prod.mk.inj (Option.some.inj (hmissing.symm.trans hfirst))
        obtain ⟨rfl, -⟩ := Prod.mk.inj (Option.some.inj hnext)
        exact .inr ⟨⟨error, rfl⟩, .missing hparts hleft hfound⟩
    | some part =>
      have hexplains := ih _ _ _ _ _ hfound hfirst
      cases first with
      | cancelled => exact hexplains.elim
      | failed error =>
        obtain ⟨rfl, -⟩ := Prod.mk.inj (Option.some.inj hnext)
        exact .inr ⟨⟨error, rfl⟩, .part hparts hleft hfound hexplains⟩
      | installed =>
        refine ihrest (hparts.trans (List.append_cons _ _ _)) ?_ hnext
        exact List.forall_mem_append.mpr
          ⟨hleft, List.forall_mem_singleton.mpr ⟨part, hfound, hexplains⟩⟩

theorem explains_of_install (hsucceeds : env.Succeeds) (hfound : found sources reference = some package)
    (h : install sources env depth true reference log = some (outcome, after)) :
    Explains sources package outcome := by
  induction depth generalizing reference log after outcome package with
  | zero => cases h
  | succ depth ih =>
    rw [install_found hfound] at h
    obtain ⟨⟨before, middle⟩, hbundle, hconclude⟩ := Option.map_eq_some_iff.mp h
    rcases explains_bundle (fun _ _ _ _ _ hpart hinstall ↦ ih hpart hinstall)
      (List.nil_append _).symm (by simp) hbundle with ⟨rfl, hcomplete⟩ | ⟨⟨error, rfl⟩, hblocked⟩
    · simp only [conclude, finish, hsucceeds middle package] at hconclude
      obtain ⟨rfl, -⟩ := Prod.mk.inj hconclude
      refine .intro package (fun other hmem ↦ ?_) fun part hmem ↦ ?_
      · obtain ⟨part, hpart, -⟩ := hcomplete other hmem
        rw [hpart]
        rfl
      · obtain ⟨other, hother, hpart⟩ := List.mem_filterMap.mp hmem
        obtain ⟨same, hsame, hdone⟩ := hcomplete other hother
        rwa [Option.some.inj (hpart.symm.trans hsame)]
    · obtain ⟨rfl, -⟩ := Prod.mk.inj hconclude
      exact hblocked

theorem mem_parts_iff {manifest : DependentManifest} (hmanifest : sources.manifest package = .ok manifest)
    (hkind : manifest.kind = .bundle) :
    dependency ∈ parts sources package ↔ DependsOn sources package dependency := by
  simp [parts, bundled, DependsOn, references, hmanifest, hkind]

theorem DependsOn.manifest (h : DependsOn sources package dependency) :
    ∃ manifest, sources.manifest package = .ok manifest := by
  obtain ⟨reference, hmem, -⟩ := h
  unfold references at hmem
  cases hmanifest : sources.manifest package with
  | ok manifest => exact ⟨manifest, rfl⟩
  | error error =>
    rw [hmanifest] at hmem
    exact absurd hmem List.not_mem_nil

theorem dependsOn_of_mem_parts {part : π} (h : part ∈ parts sources package) :
    DependsOn sources package part := by
  obtain ⟨reference, hmem, hfound⟩ := List.mem_filterMap.mp h
  refine ⟨reference, ?_, hfound⟩
  unfold bundled at hmem
  unfold references
  split at hmem
  · split at hmem
    · exact hmem
    · exact absurd hmem List.not_mem_nil
  · exact absurd hmem List.not_mem_nil

/-- What a package reached depends on is reached earlier. -/
theorem LeavesLater.earlier {target : π} (h : LeavesLater sources package) {path : List ℕ}
    (hpath : Leads (parts sources) package path target) (hdepends : DependsOn sources target dependency) :
    ∃ other, Leads (parts sources) package other dependency ∧ Earlier other path := by
  obtain ⟨manifest, hmanifest⟩ := hdepends.manifest
  by_cases hkind : manifest.kind = .bundle
  · have hpart := (mem_parts_iff hmanifest hkind).mpr hdepends
    obtain ⟨i, hi⟩ := List.mem_iff_getElem?.mp hpart
    exact ⟨path ++ [i], hpath.snoc hi, earlier_snoc path i⟩
  · exact h path target manifest hpath hmanifest hkind dependency hdepends

/-- A walk installs once and in order exactly if its chains say so. -/
theorem onceInOrder_iff {visits : List (List ℕ × π)} (h : PostOrder (parts sources) package visits) :
    OnceInOrder sources package (visits.map Prod.snd) ↔
      SingleChains sources package ∧ LeavesLater sources package := by
  constructor
  · intro hlog
    refine ⟨h.nodup_iff.mp hlog.once, fun path leaf manifest hpath _ _ dependency hdepends ↦ ?_⟩
    obtain ⟨before, after, rfl⟩ := List.append_of_mem ((h.mem_iff _ _).mpr hpath)
    have hmem := hlog.ordered (before.map Prod.snd) leaf (after.map Prod.snd) (by simp) dependency
      hdepends
    obtain ⟨⟨other, _⟩, hother, rfl⟩ := List.mem_map.mp hmem
    exact ⟨other, h.mem_before_iff.mp hother⟩
  · rintro ⟨hsingle, hlater⟩
    refine { once := h.nodup_iff.mpr hsingle, all := fun other ↦ ?_, ordered := ?_ }
    · rw [h.mem_map_iff]
      constructor
      · rintro ⟨path, hpath⟩
        exact Relation.ReflTransGen.mono (fun _ _ ↦ dependsOn_of_mem_parts) _ _ hpath.reflTransGen
      · intro hreach
        induction hreach with
        | refl => exact ⟨[], .here package⟩
        | tail _ hdepends ih =>
          obtain ⟨path, hpath⟩ := ih
          obtain ⟨other, hother, -⟩ := hlater.earlier hpath hdepends
          exact ⟨other, hother⟩
    · intro before other after hsplit dependency hdepends
      obtain ⟨first, rest, rfl, rfl, hrest⟩ := List.map_eq_append_iff.mp hsplit
      obtain ⟨visit, last, rfl, rfl, rfl⟩ := List.map_eq_cons_iff.mp hrest
      obtain ⟨path, hpath, hearlier⟩ := hlater.earlier
        ((h.mem_iff visit.1 visit.2).mp (by simp)) hdepends
      exact List.mem_map.mpr ⟨(path, dependency), h.mem_before_iff.mpr ⟨hpath, hearlier⟩, rfl⟩

/-- Installing a local package ends, and installs every package it depends on once and in order, exactly
if a reference that is not found comes before any chain of bundles that does not end, or every chain
ends, no two lead to one package, and plugins and agents depend on what was reached before. -/
theorem installsOnce_iff {reference : String} {package : π}
    (hfound : found sources reference = some package) : InstallsOnce sources reference package ↔
      Blocked sources package ∨
        (Complete sources package ∧ SingleChains sources package ∧ LeavesLater sources package) := by
  constructor
  · intro h
    obtain ⟨depth, outcome, log, hinstall, hlog⟩ := h ⟨fun _ _ ↦ .ok (), .ok true⟩ true
    have hsucceeds : InstallEnv.Succeeds ⟨fun (_ : List π) _ ↦ .ok (), .ok true⟩ := fun _ _ ↦ rfl
    have hexplains := explains_of_install hsucceeds hfound hinstall
    cases outcome with
    | cancelled => exact hexplains.elim
    | failed error => exact .inl hexplains
    | installed =>
      obtain ⟨visits, hvisits, hwalks⟩ := Complete.walks hexplains
      obtain ⟨deeper, result, hsame, hresult⟩ := hwalks reference hfound _ []
      obtain rfl := install_unique hinstall hsame
      obtain rfl : log = visits.map Prod.snd := hresult.log_eq rfl
      exact .inr ⟨hexplains, (onceInOrder_iff hvisits).mp (hlog rfl)⟩
  · intro h env yes
    rcases install_asked env hfound yes [] with hsame | ⟨outcome, hnot, hasked⟩
    · rcases h with hblocked | ⟨hcomplete, hchains⟩
      · obtain ⟨depth, error, after, hinstall⟩ := hblocked.fails hfound env []
        exact ⟨depth + 1, .failed error, after, (hsame depth).trans (install_succ hinstall), nofun⟩
      · obtain ⟨visits, hvisits, hwalks⟩ := hcomplete.walks
        obtain ⟨depth, ⟨outcome, log⟩, hinstall, hresult⟩ := hwalks reference hfound env []
        refine ⟨depth + 1, outcome, log, (hsame depth).trans (install_succ hinstall), fun heq ↦ ?_⟩
        obtain rfl : log = visits.map Prod.snd := hresult.log_eq heq
        exact (onceInOrder_iff hvisits).mpr hchains
    · exact ⟨1, outcome, [], hasked, fun heq ↦ absurd heq hnot⟩

/-- Packages in directories of their own names. -/
def named (manifests : List (String × PackageKind × List String)) : LocalPackages String where
  locate reference := (manifests.find? (·.1 = reference)).map Prod.fst
  manifest package :=
    match manifests.find? (·.1 = package) with
    | some (name, kind, dependencies) =>
        .ok { name, version := "1.0.0", description := none, artifacts := [], kind,
              dependencies := dependencies.map fun dependency ↦ ⟨dependency, none⟩ }
    | none => .error "No such file"

/-- A bundle of two plugins. -/
def suite : LocalPackages String :=
  named [("suite", .bundle, ["web", "mail"]), ("web", .plugin, []), ("mail", .plugin, [])]

theorem installsOnce_suite : InstallsOnce suite "suite" "suite" := by
  have hfound : found suite "suite" = some "suite" := by decide
  have hsuite : parts suite "suite" = ["web", "mail"] := by decide
  have hweb : parts suite "web" = [] := by decide
  have hmail : parts suite "mail" = [] := by decide
  have hleaf : ∀ leaf, parts suite leaf = [] → ∀ path target, Leads (parts suite) leaf path target →
      path = [] ∧ target = leaf := by
    rintro leaf hleaf path target (_ | ⟨hchild, -⟩)
    · exact ⟨rfl, rfl⟩
    · rw [hleaf] at hchild
      cases hchild
  have hleads : ∀ path target, Leads (parts suite) "suite" path target →
      (path, target) ∈ [([], "suite"), ([0], "web"), ([1], "mail")] := by
    rintro path target (_ | @⟨_, child, _, i, rest, hchild, hrest⟩)
    · decide
    · rw [hsuite] at hchild
      rcases i with _ | _ | i
      · cases hchild
        obtain ⟨rfl, rfl⟩ := hleaf _ hweb _ _ hrest
        decide
      · cases hchild
        obtain ⟨rfl, rfl⟩ := hleaf _ hmail _ _ hrest
        decide
      · cases hchild
  refine (installsOnce_iff hfound).mpr (.inr ⟨?_, fun path other target hpath hother ↦ ?_, ?_⟩)
  · refine .intro _ (by decide) ?_
    rw [hsuite]
    simp only [List.forall_mem_cons]
    exact ⟨.intro _ (by decide) (by simp [hweb]), .intro _ (by decide) (by simp [hmail]), by simp⟩
  · have hpath := hleads _ _ hpath
    have hother := hleads _ _ hother
    grind
  · rintro path leaf manifest hpath hmanifest hkind dependency ⟨reference, hmem, -⟩
    have hleaf := hleads _ _ hpath
    simp only [List.mem_cons, Prod.mk.injEq, List.not_mem_nil, or_false] at hleaf
    rcases hleaf with ⟨-, rfl⟩ | ⟨-, rfl⟩ | ⟨-, rfl⟩
    · cases hmanifest
      exact absurd rfl hkind
    all_goals exact absurd hmem List.not_mem_nil

/-- A bundle that names itself. -/
def loop : LocalPackages String := named [("loop", .bundle, ["loop"])]

theorem installsOnce_loop_false : ¬ InstallsOnce loop "loop" "loop" := by
  intro h
  obtain ⟨depth, outcome, log, hinstall, -⟩ := h ⟨fun _ _ ↦ .ok (), .ok true⟩ true
  have hnever : ∀ depth log, install loop ⟨fun _ _ ↦ .ok (), .ok true⟩ depth true "loop" log = none := by
    intro depth
    induction depth with
    | zero => exact fun _ ↦ rfl
    | succ depth ih =>
      intro log
      rw [install_found (by decide : found loop "loop" = some "loop")]
      have hbundled : bundled loop "loop" = ["loop"] := by decide
      rw [hbundled, installBundle, ih]
      rfl
  rw [hnever] at hinstall
  cases hinstall

end Seidrum.Daemon.PackageGraph
