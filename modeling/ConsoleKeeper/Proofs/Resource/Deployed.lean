import ConsoleKeeper.Proofs.Image
import ConsoleKeeper.Proofs.Operator.Decision

/-!
# `ConsoleKeeper.Proofs.Resource.Deployed`: the version of a deployment

The version is read off the reference of the image that a container runs. `version_reads_back` says
what comes out for a reference that was put together from a repository, a tag and a digest: the
normal form of the tag, nothing where there is no tag, and a failure where the tag is empty or the
mark alone. The versions that come out of some deployment are the ones that are not empty and have
nothing that separates the parts of a reference (`readable_iff`).

`choose_respects_iff` is about what such a version is compared with. The choice takes the normal
form of what is asked for, but it asks whether that is empty without taking it. So the mark alone
has the normal form of an empty request and is taken for a request all the same; for all other
requests the normal form is all that counts.
-/

set_option autoImplicit false

namespace ConsoleKeeper

namespace Deployment

variable {deployment : Deployment} {name image : String}

/-- The first container with a name runs an image. -/
def Runs (deployment : Deployment) (name image : String) : Prop :=
  ∃ before container after, deployment.containers = before ++ container :: after ∧
    (∀ other ∈ before, other.name ≠ name) ∧ container.name = name ∧ container.image = image

/-- A deployment that runs an image has it in the container with the name. -/
theorem Runs.container? (h : deployment.Runs name image) :
    ∃ container, deployment.container? name = some container ∧ container.image = image := by
  obtain ⟨before, container, after, hcontainers, hbefore, hname, himage⟩ := h
  refine ⟨container, ?_, himage⟩
  rw [Deployment.container?, hcontainers]
  refine List.find?_eq_some_iff_append.mpr ⟨by simpa using hname, before, after, rfl, ?_⟩
  simpa using hbefore

/-- No version is read where there is no container with the name. -/
theorem deployedVersion_of_absent (h : ∀ container ∈ deployment.containers, container.name ≠ name) :
    deployment.deployedVersion name = .ok none := by
  have hnone : deployment.container? name = none := by
    simpa [Deployment.container?] using h
  rw [deployedVersion, hnone]

/-- What the tag of the image says. -/
theorem deployedVersion_of_runs (h : deployment.Runs name image) :
    deployment.deployedVersion name =
      (Image.tag? image).elim (.ok none) fun tag =>
        if tag = "" ∨ tag = "v" then .error (.operator (.ofEmptyTag image))
        else .ok (some (Version.normalize tag)) := by
  obtain ⟨container, hcontainer, rfl⟩ := h.container?
  rw [deployedVersion, hcontainer]
  dsimp only
  cases Image.tag? container.image with
  | none => rfl
  | some tag => simp only [String.isEmpty_iff, Version.normalize_eq_empty, Option.elim_some]

/-- A tag that names no version is refused. -/
theorem deployedVersion_fails_iff {tag : String} (h : deployment.Runs name image)
    (htag : Image.tag? image = some tag) :
    (∃ failure, deployment.deployedVersion name = .error failure) ↔ tag = "" ∨ tag = "v" := by
  rw [deployedVersion_of_runs h, htag, Option.elim_some]
  split <;> simp [*]

/-- The version of a deployment whose image was put together from a repository, a tag and a digest,
of which the last two may be missing. The tag of the image is the tag that it was given. The version
is the normal form of the tag; there is none without a tag or without a container of that name, and
a tag that names no version is a failure. -/
theorem version_reads_back {repository : String} {tag : Option String}
    (hrepository : Image.IsRepository repository) (htag : ∀ t ∈ tag, Image.IsPart t)
    (digest : Option String) :
    let image := Image.write repository tag digest
    Image.tag? image = tag ∧
      (∀ (deployment : Deployment) (name : String), deployment.Runs name image →
        deployment.deployedVersion name =
          tag.elim (.ok none) fun t =>
            if t = "" ∨ t = "v" then .error (.operator (.ofEmptyTag image))
            else .ok (some (Version.normalize t))) ∧
      ∀ (deployment : Deployment) (name : String),
        (∀ container ∈ deployment.containers, container.name ≠ name) →
          deployment.deployedVersion name = .ok none := by
  intro image
  have hread : Image.tag? image = tag := Image.tag?_write hrepository htag digest
  refine ⟨hread, fun deployment name hruns => ?_, fun _ _ => deployedVersion_of_absent⟩
  rw [deployedVersion_of_runs hruns, hread]

/-- A repository with a port. -/
def portedRepository : String := "registry:5000/kubevirt/web-ui"

/-- A deployment with two containers of a name. The first of them runs an image with a digest in
which every separator occurs. -/
def portedDeployment : Deployment where
  name := "console"
  ns := "ns"
  containers := [⟨"proxy", "proxy:2"⟩,
    ⟨"console", Image.write portedRepository (some "v1.4") (some "sha256:a/b@c")⟩,
    ⟨"console", "web-ui:v9"⟩]

/-- The version of this deployment. -/
theorem version_reads_back_portedDeployment :
    Image.IsRepository portedRepository ∧ (∀ t ∈ some "v1.4", Image.IsPart t) ∧
      portedDeployment.Runs "console"
        (Image.write portedRepository (some "v1.4") (some "sha256:a/b@c")) ∧
      portedDeployment.deployedVersion "console" = .ok (some "1.4") := by
  have hrepository : Image.IsRepository portedRepository :=
    Image.isRepository_iff.mpr (by decide)
  have htag : ∀ t ∈ some "v1.4", Image.IsPart t := by
    rintro t ⟨⟩
    decide
  have hruns : portedDeployment.Runs "console"
      (Image.write portedRepository (some "v1.4") (some "sha256:a/b@c")) :=
    ⟨[⟨"proxy", "proxy:2"⟩], _, [⟨"console", "web-ui:v9"⟩], rfl, by decide, rfl, rfl⟩
  have hversion := (version_reads_back hrepository htag (some "sha256:a/b@c")).2.1 _ _ hruns
  exact ⟨hrepository, htag, hruns, hversion.trans rfl⟩

/-- A version that is read off some deployment. -/
def Readable (version : String) : Prop :=
  ∃ (deployment : Deployment) (name : String), deployment.deployedVersion name = .ok (some version)

/-- A version that is read is the normal form of a tag. -/
theorem exists_tag_of_deployedVersion {version : String}
    (h : deployment.deployedVersion name = .ok (some version)) :
    version ≠ "" ∧ ∃ image tag, Image.tag? image = some tag ∧ version = Version.normalize tag := by
  -- A version comes out only of a container whose image has a tag that names something.
  unfold deployedVersion at h
  split at h
  · cases h
  · next container _ =>
    split at h
    · cases h
    · next tag htag =>
      simp only [String.isEmpty_iff] at h
      split at h
      · cases h
      · next hne =>
        obtain rfl := Option.some.inj (Except.ok.inj h)
        exact ⟨hne, container.image, tag, htag, rfl⟩

/-- The versions that can be read. -/
theorem readable_iff {version : String} :
    Readable version ↔ version ≠ "" ∧ Image.IsPart version := by
  constructor
  · rintro ⟨deployment, name, h⟩
    obtain ⟨hne, image, tag, htag, rfl⟩ := exists_tag_of_deployedVersion h
    refine ⟨hne, fun c hc hmem => Image.isPart_of_tag? htag c hc ?_⟩
    rw [Version.toList_normalize] at hmem
    exact Version.dropMark_subset _ hmem
  · rintro ⟨hne, hpart⟩
    -- A mark in front of the version makes it a tag whose normal form it is.
    have hmarked : Image.IsPart ("v" ++ version) := by
      rw [Image.isPart_iff] at hpart ⊢
      simpa [String.toList_append] using hpart
    have hrepository : Image.IsRepository "" := Image.isRepository_iff.mpr (by decide)
    let image := Image.write "" (some ("v" ++ version)) none
    have hread : Image.tag? image = some ("v" ++ version) :=
      Image.tag?_write_some hrepository hmarked none
    let deployment : Deployment := { name := "", ns := "", containers := [⟨"", image⟩] }
    have hcontainer : deployment.container? "" = some ⟨"", image⟩ := rfl
    refine ⟨deployment, "", ?_⟩
    have hnormal := Version.normalize_mark version
    rw [deployedVersion_of_tag hcontainer hread (by rwa [hnormal]), hnormal]

end Deployment

namespace Action

variable {desired desired' : String} {actual : Option String}

/-- Where nothing is deployed only the requested version decides. -/
theorem choose_none (desired : String) :
    choose desired none = if desired = "" then .noop else .provision := by
  simp only [choose, String.isEmpty_iff]

/-- The normal form and whether there is anything to deploy are all that counts of a request. -/
theorem choose_congr (hsame : Version.normalize desired = Version.normalize desired')
    (hempty : desired = "" ↔ desired' = "") (actual : Option String) :
    choose desired actual = choose desired' actual := by
  cases actual with
  | none => simp only [choose_none, hempty]
  | some actual => simp only [choose_some, lawful, hsame, String.isEmpty_iff, hempty]

/-- The mark alone is not taken for an empty request, unless the deployed version is the mark. -/
theorem choose_mark_eq_iff (hactual : ∀ version ∈ actual, version ≠ "") :
    choose "v" actual = choose "" actual ↔ actual = some "v" := by
  cases actual with
  | none => decide
  | some actual =>
    have hne : actual ≠ "" := hactual actual rfl
    have hmark : Version.normalize "v" = Version.normalize "" := by decide
    -- Both requests have the empty normal form, which among versions only the mark has.
    have hsame := Version.normalize_empty_eq_iff hne
    by_cases hv : actual = "v" <;> simp [choose_some, lawful, hmark, hsame, hv]

/-- Of requests with the same normal form, only an empty one and the mark can be decided otherwise.
-/
theorem choose_eq_iff (hsame : Version.normalize desired = Version.normalize desired')
    (hactual : ∀ version ∈ actual, version ≠ "") :
    choose desired actual = choose desired' actual ↔
      (desired = "" ↔ desired' = "") ∨ actual = some "v" := by
  by_cases hempty : desired = "" ↔ desired' = ""
  · -- Then nothing that counts is different.
    simp [choose_congr hsame hempty actual, hempty]
  · rw [or_iff_right hempty]
    -- One of the requests is empty, and then the other one is the mark.
    by_cases hd : desired = ""
    · have hd' : desired' ≠ "" := fun hd' => hempty (by simp [hd, hd'])
      rw [hd] at hsame ⊢
      rw [(Version.normalize_empty_eq_iff hd').mp hsame, eq_comm, choose_mark_eq_iff hactual]
    · have hd' : desired' = "" := by
        by_contra hd'
        exact hempty (by simp [hd, hd'])
      rw [hd'] at hsame ⊢
      rw [(Version.normalize_empty_eq_iff hd).mp hsame.symm, choose_mark_eq_iff hactual]

/-- Requests with the same normal form are decided alike about everything that can be deployed,
unless one of them is empty and the other one is the mark. Then they are decided alike about the
mark only. What is provisioned for a request is refused afterwards exactly if the request is the
mark. -/
theorem choose_respects_iff (hsame : Version.normalize desired = Version.normalize desired')
    (hactual : ∀ version ∈ actual, Deployment.Readable version) :
    (choose desired actual = choose desired' actual ↔
      (desired = "" ↔ desired' = "") ∨ actual = some "v") ∧
    ∀ (wanted repository : String) (digest : Option String) (deployment : Deployment)
      (name : String), choose wanted none = .provision → Image.IsPart wanted →
      Image.IsRepository repository →
      deployment.Runs name (Image.write repository (some wanted) digest) →
        ((∃ failure, deployment.deployedVersion name = .error failure) ↔ wanted = "v") := by
  constructor
  · exact choose_eq_iff hsame fun version hmem =>
      (Deployment.readable_iff.mp (hactual version hmem)).1
  · intro wanted repository digest deployment name hchoice hpart hrepository hruns
    have hread := Image.tag?_write_some hrepository hpart digest
    -- An empty wish is a choice to do nothing where nothing is deployed.
    have hne : wanted ≠ "" := by
      rintro rfl
      cases hchoice
    rw [Deployment.deployedVersion_fails_iff hruns hread, or_iff_right hne]

/-- An empty request takes a deployment away that the mark alone replaces. -/
theorem choose_respects_iff_mark :
    Version.normalize "v" = Version.normalize "" ∧ Deployment.Readable "1.4" ∧
      choose "v" (some "1.4") ≠ choose "" (some "1.4") := by
  have hsame : Version.normalize "v" = Version.normalize "" := by decide
  have hreadable : Deployment.Readable "1.4" := Deployment.readable_iff.mpr (by decide)
  have hactual : ∀ version ∈ some "1.4", Deployment.Readable version := by
    rintro version ⟨⟩
    exact hreadable
  refine ⟨hsame, hreadable, fun h => ?_⟩
  obtain hempty | hmark := (choose_respects_iff hsame hactual).1.mp h
  · exact absurd (hempty.mpr rfl) (by decide)
  · exact absurd hmark (by decide)

/-- The image that the mark alone asks for. -/
def markImage : String := Image.write Deployment.portedRepository (some "v") none

/-- A deployment of this image. -/
def markDeployment : Deployment where
  name := "console"
  ns := "ns"
  containers := [⟨"console", markImage⟩]

/-- The mark alone has the normal form of an empty request. It is provisioned where an empty request
is not, and what was provisioned is refused. -/
theorem mark_is_requested :
    Version.normalize "v" = Version.normalize "" ∧ choose "v" none = .provision ∧
      choose "" none = .noop ∧
      markDeployment.deployedVersion "console" = .error (.operator (.ofEmptyTag markImage)) := by
  refine ⟨by decide, by decide, by decide, ?_⟩
  have hruns : markDeployment.Runs "console" markImage :=
    ⟨[], _, [], rfl, by decide, rfl, rfl⟩
  have hread : Image.tag? markImage = some "v" :=
    Image.tag?_write_some (Image.isRepository_iff.mpr (by decide)) (by decide) none
  rw [Deployment.deployedVersion_of_runs hruns, hread]
  rfl

end Action

end ConsoleKeeper
