import Yeet.Catch.InstallEntry
import Yeet.Registry.Manifests

/-! The client's `pushImage`: the reference it tags and pushes for a local image, against
the repo rule of the daemon's `OnImageReceived` and `SetManifest`; and
`pushAllLocalImages`, which pushes the local images of a compose service. `getDockerHost`
(the tailnet name of the daemon's host) and the local docker daemon (`imageExists`,
`docker images`, `docker inspect`) are parameters; `docker tag`, `push` and `rmi` are taken
to run with the reference given. What the client prints when it skips an image is left
out. -/
namespace Yeet.Client
open Yeet.Registry Yeet.Catch

/-- The first step of `pushImage`: the image name up to its last `:`. -/
def stripTag (image : String) : String :=
  match Strings.lastIndex image ':' with
  | some i => Strings.prefixTo image i
  | none => image

/-- The second step of `pushImage`: without a first path segment that contains `.` or
`:`, which it takes for a registry host. -/
def stripRegistryHost (repo : String) : String :=
  match Strings.splitN repo '/' 2 with
  | [first, rest] => if Strings.containsAny first ".:" then rest else repo
  | _ => repo

/-- The repo `pushImage` derives from the image name. -/
def imageRepo (image : String) : String := stripRegistryHost (stripTag image)

/-- `pushImage`: the reference `<host>/<repo>:<tag>` it pushes, or its error. The service
argument is read by nothing. -/
def pushImage (getDockerHost : Except String String) (imageExists : String → Bool)
    (_svc image tag : String) : Except String String :=
  match getDockerHost with
  | .error e => .error e
  | .ok host =>
      if !imageExists image then .error ("image " ++ image ++ " does not exist") else
      let repo := imageRepo image
      if Strings.count repo '/' > 1 then
        .error ("invalid image name \"" ++ image ++ "\" - repo must be in format 'svc' or 'svc/container'")
      else .ok (host ++ "/" ++ repo ++ ":" ++ tag)

/-- Pushes for service `app`: `web:v1` is pushed as repo `web`, which the daemon rejects;
`other/web:v1` deploys to `other`; `localhost:5000/app` loses its port and path as if
they were a tag and is pushed as repo `localhost`. -/
theorem pushesMissService :
    pushImage (.ok "catch.tail.ts.net") (fun _ => true) "app" "web:v1" "run" = .ok "catch.tail.ts.net/web:run" ∧
      onImageReceived "web" "run" "sha256:5d41" =
        .error "containers should follow the 'service/container' format" ∧
      pushImage (.ok "catch.tail.ts.net") (fun _ => true) "app" "other/web:v1" "run" =
        .ok "catch.tail.ts.net/other/web:run" ∧
      (setManifest sampleHost sampleConfig "other/web" "run" ⟨"application/vnd.oci.image.manifest.v1+json", [1]⟩
        State.empty).2.map (·.serviceName) = ["other"] ∧
      pushImage (.ok "catch.tail.ts.net") (fun _ => true) "app" "localhost:5000/app" "latest" =
        .ok "catch.tail.ts.net/localhost:latest" :=
  ⟨rfl, rfl, rfl, rfl, rfl⟩

/-! ### The local images of a compose service -/

/-- The local docker daemon as `pushAllLocalImages` meets it: whether `exec.LookPath` finds
docker, the combined output and error of `docker images`, the output of `docker inspect`,
and `imageExists`. -/
structure LocalDocker where
  found : Bool
  images : String → String × Option String
  inspect : String → Except String String
  imageExists : String → Bool

/-- `imageSystemAndArch`. -/
def imageSystemAndArch (docker : LocalDocker) (image : String) : Except String (String × String) :=
  match docker.inspect image with
  | .error e => .error ("failed to inspect image: " ++ e)
  | .ok out =>
      match Strings.cut (Strings.trimSpace out) ',' with
      | (system, arch, _) => .ok (system, arch)

/-- The loop of `pushAllLocalImages` over the images listed: its error, and the references
pushed. An image it cannot inspect, or built for another system or architecture than the
remote's, is skipped. -/
def pushLocalImages (docker : LocalDocker) (getDockerHost : Except String String) (s goos goarch : String) :
    List String → Except String Unit × List String
  | [] => (.ok (), [])
  | image :: rest =>
      match imageSystemAndArch docker image with
      | .error _ => pushLocalImages docker getDockerHost s goos goarch rest
      | .ok (sys, arch) =>
          if sys ≠ goos then pushLocalImages docker getDockerHost s goos goarch rest
          else if goarch ≠ arch then pushLocalImages docker getDockerHost s goos goarch rest
          else
            match pushImage getDockerHost docker.imageExists s image "latest" with
            | .error e => (.error e, [])
            | .ok ref =>
                ((pushLocalImages docker getDockerHost s goos goarch rest).1,
                  ref :: (pushLocalImages docker getDockerHost s goos goarch rest).2)

/-- The images `pushAllLocalImages` lists: those named under `catchit.dev/<s>/`. -/
def localImagesFilter (s : String) : String := Svc.InternalRegistryHost ++ "/" ++ s ++ "/*"

/-- `pushAllLocalImages(s, goos, goarch)`. Its check for an empty listing never fires:
`strings.Split` returns at least one string, so an empty listing is the one image `""`,
which `docker inspect` fails on and the loop skips. -/
def pushAllLocalImages (docker : LocalDocker) (getDockerHost : Except String String) (s goos goarch : String) :
    Except String Unit × List String :=
  if !docker.found then (.ok (), []) else
  match docker.images (localImagesFilter s) with
  | (output, some err) =>
      if Strings.containsString output "Is the docker daemon running?" then (.ok (), [])
      else (.error ("failed to list images: " ++ err ++ " (" ++ output ++ ")"), [])
  | (output, none) =>
      let images := Strings.split (Strings.trimSpace output) '\n'
      if images.length = 0 then (.ok (), []) else pushLocalImages docker getDockerHost s goos goarch images

theorem pushLocalImagesPushed {docker : LocalDocker} {getDockerHost : Except String String} {s goos goarch : String}
    {images : List String} {ref : String} (pushed : ref ∈ (pushLocalImages docker getDockerHost s goos goarch images).2) :
    ∃ image ∈ images, imageSystemAndArch docker image = .ok (goos, goarch) ∧
      pushImage getDockerHost docker.imageExists s image "latest" = .ok ref := by
  induction images with
  | nil => cases pushed
  | cons image rest ih =>
    unfold pushLocalImages at pushed
    have later : ref ∈ (pushLocalImages docker getDockerHost s goos goarch rest).2 →
        ∃ image' ∈ image :: rest, imageSystemAndArch docker image' = .ok (goos, goarch) ∧
          pushImage getDockerHost docker.imageExists s image' "latest" = .ok ref := fun mem =>
      let ⟨image', mem', inspected, ok⟩ := ih mem
      ⟨image', List.mem_cons_of_mem _ mem', inspected, ok⟩
    split at pushed
    · exact later pushed
    · rename_i sys arch inspected
      split_ifs at pushed with otherSys otherArch
      · exact later pushed
      · exact later pushed
      · split at pushed
        · cases pushed
        · rename_i ref' ok
          rcases List.mem_cons.mp pushed with rfl | more
          · refine ⟨image, List.mem_cons_self _ _, ?_, ok⟩
            rw [inspected, of_not_not otherSys, of_not_not otherArch]
          · exact later more

/-- Every reference `pushAllLocalImages` pushes is the `latest` reference `pushImage` makes
for an image that `docker images` listed and that `docker inspect` reports built for the
remote's system and architecture. -/
theorem localImagesMatchRemote (docker : LocalDocker) (getDockerHost : Except String String) (s goos goarch : String)
    {ref : String} (pushed : ref ∈ (pushAllLocalImages docker getDockerHost s goos goarch).2) :
    ∃ output image, docker.images (localImagesFilter s) = (output, none) ∧
      image ∈ Strings.split (Strings.trimSpace output) '\n' ∧ imageSystemAndArch docker image = .ok (goos, goarch) ∧
      pushImage getDockerHost docker.imageExists s image "latest" = .ok ref := by
  unfold pushAllLocalImages at pushed
  split_ifs at pushed
  · cases pushed
  split at pushed
  · split_ifs at pushed <;> cases pushed
  · rename_i output listed
    dsimp only at pushed
    split_ifs at pushed
    · cases pushed
    · obtain ⟨image, mem, inspected, ok⟩ := pushLocalImagesPushed pushed
      exact ⟨output, image, listed, mem, inspected, ok⟩

def twoArchDocker : LocalDocker where
  found := true
  images _ := ("catchit.dev/app/web:latest\ncatchit.dev/app/db:latest\n", none)
  inspect image := .ok (if image = "catchit.dev/app/web:latest" then "linux,amd64" else "linux,arm64")
  imageExists _ := true

theorem armRemotePushesArmImage :
    "catch.tail.ts.net/app/db:latest" ∈ (pushAllLocalImages twoArchDocker (.ok "catch.tail.ts.net") "app" "linux" "arm64").2 ∧
      (∃ output image, twoArchDocker.images (localImagesFilter "app") = (output, none) ∧
        image ∈ Strings.split (Strings.trimSpace output) '\n' ∧ imageSystemAndArch twoArchDocker image = .ok ("linux", "arm64") ∧
        pushImage (.ok "catch.tail.ts.net") twoArchDocker.imageExists "app" image "latest" = .ok "catch.tail.ts.net/app/db:latest") ∧
      (pushAllLocalImages twoArchDocker (.ok "catch.tail.ts.net") "app" "linux" "arm64").2 = ["catch.tail.ts.net/app/db:latest"] := by
  have pushed : "catch.tail.ts.net/app/db:latest" ∈
      (pushAllLocalImages twoArchDocker (.ok "catch.tail.ts.net") "app" "linux" "arm64").2 := by decide
  exact ⟨pushed, localImagesMatchRemote twoArchDocker _ "app" "linux" "arm64" pushed, by decide⟩

end Yeet.Client
