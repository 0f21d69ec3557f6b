import PadGraph.Proofs.Config.Loading
import PadGraph.Proofs.Expression.Read

/-!
# The limits that are configured

A limit is written as an integer with a sign, and zero is refused. So wherever a configuration comes
from, its limit allows something, and a source that is one byte longer can still be counted.

* `Config.Bounded` — limits that allow one byte at least, and not more than a signed integer can tell;
  `Config.Bounded.readBound_eq` — how far a source is read under them.
* `Config.allowed_lt_of_read`, `Config.bounded_of_loadConfig` — the limit that a text sets, and that
  of a file.
* **`Config.bounded_of_findConfig`** — the limits of any configuration that is found.
-/

namespace PadGraph

/-- A step that succeeds has had something to go on. -/
theorem exists_of_bind_eq_ok {ε α β : Type} {first : Except ε α} {next : α → Except ε β} {b : β}
    (h : first >>= next = .ok b) : ∃ a, first = .ok a ∧ next a = .ok b := by
  cases first with
  | error e => cases h
  | ok a => exact ⟨a, rfl, h⟩

namespace Config

/-- A limit that a signed integer can tell and that allows one byte at least. -/
structure Bounded (config : Config) : Prop where
  allowed_pos : 0 < config.parser.allowed
  allowed_lt : config.parser.allowed < 2 ^ 63

theorem bounded_default : Bounded {} := ⟨by decide, by decide⟩

/-- Under such a limit one byte more can still be counted. -/
theorem Bounded.readBound_eq {config : Config} (h : config.Bounded) :
    config.parser.readBound = config.parser.allowed + 1 := by
  have hlt := h.allowed_lt
  rw [Limits.readBound_eq]
  have hsize : UInt64.size = 2 ^ 64 := rfl
  omega

theorem toNat_lt_of_limit? {value : Toml.Value} {limit : UInt64} (h : limit? value = some limit) :
    limit.toNat < 2 ^ 63 := by
  cases value with
  | integer n =>
      simp only [limit?] at h
      split at h
      · next hn =>
        obtain rfl := Option.some.inj h
        rw [Int64.toNat_toUInt64_of_le hn]
        exact n.toNatClampNeg_lt
      · cases h
  | _ => cases h

/-- What is set is the default, or is given by the value that stands in its place. -/
theorem setting_eq_ok {α : Type} {entries : Toml.Entries} {name : String}
    {read : Toml.Value → Option α} {default value : α}
    (h : setting entries name read default = .ok value) :
    value = default ∨ ∃ given, read given = some value := by
  rw [setting] at h
  split at h
  · exact .inl (Except.ok.inj h).symm
  · next given _ =>
    split at h
    · next hread => exact .inr ⟨given, Except.ok.inj h ▸ hread⟩
    · cases h

theorem allowed_lt_of_limitsOf {entries : Toml.Entries} {limits : Limits}
    (h : limitsOf entries = .ok limits) : limits.allowed < 2 ^ 63 := by
  obtain ⟨limit, hsetting, hlimits⟩ := exists_of_bind_eq_ok h
  obtain rfl := Except.ok.inj hlimits
  rcases setting_eq_ok hsetting with rfl | ⟨value, hvalue⟩
  · decide
  · exact toNat_lt_of_limit? hvalue

theorem allowed_lt_of_read {text : Text} {config : Config} (h : read text = .ok config) :
    config.parser.allowed < 2 ^ 63 := by
  rw [read] at h
  split at h
  · cases h
  · obtain ⟨parser, -, h⟩ := exists_of_bind_eq_ok h
    obtain ⟨output, -, h⟩ := exists_of_bind_eq_ok h
    obtain ⟨limits, hlimits, h⟩ := exists_of_bind_eq_ok h
    obtain ⟨settings, -, h⟩ := exists_of_bind_eq_ok h
    obtain rfl := Except.ok.inj h
    exact allowed_lt_of_limitsOf hlimits

theorem bounded_of_loadConfig {files : FileSystem} {path : Text} {config : Config}
    (h : loadConfig files path = .ok config) : config.Bounded := by
  obtain ⟨text, -, hread, hlimit⟩ := loadConfig_eq_ok_iff.mp h
  refine ⟨Nat.pos_of_ne_zero fun hzero => hlimit ?_, allowed_lt_of_read hread⟩
  exact UInt64.toNat_inj.mp hzero

/-- **The limits of any configuration that is found.** -/
theorem bounded_of_findConfig {files : FileSystem} {home path : Option Text} {config : Config}
    (h : findConfig files home path = .ok config) : config.Bounded := by
  cases path with
  | some path => exact bounded_of_loadConfig h
  | none =>
      rw [findConfig] at h
      split at h
      · exact bounded_of_loadConfig h
      · obtain rfl := Except.ok.inj h
        exact bounded_default

end Config

end PadGraph
