import MallocLayer.ExportPrefix
import MallocLayer.Json

/-!
# Redirections

The symbols of a platform that must end up in the layer, and the operation that
each of them must reach.
-/

namespace MallocLayer

/-- The operation that a redirected symbol must reach. -/
inductive Replacement where
  | malloc
  | free
  | usableSize
  | goodSize
  | realloc
  | reallocf
  | calloc
  | strdup
  | memalign
  | posixMemalign
  | alignedAlloc
  | valloc
  | forkPrepare
  | forkParent
  | forkChild
  | defaultZone
  | zoneFromPtr
  | createZone
  | destroyZone
  | zoneName
  | setZoneName
deriving DecidableEq, Repr

namespace Replacement

def label : Replacement → String
  | .malloc => "malloc"
  | .free => "free"
  | .usableSize => "usable_size"
  | .goodSize => "good_size"
  | .realloc => "realloc"
  | .reallocf => "reallocf"
  | .calloc => "calloc"
  | .strdup => "strdup"
  | .memalign => "memalign"
  | .posixMemalign => "posix_memalign"
  | .alignedAlloc => "aligned_alloc"
  | .valloc => "valloc"
  | .forkPrepare => "fork_prepare"
  | .forkParent => "fork_parent"
  | .forkChild => "fork_child"
  | .defaultZone => "default_zone"
  | .zoneFromPtr => "zone_from_ptr"
  | .createZone => "create_zone"
  | .destroyZone => "destroy_zone"
  | .zoneName => "zone_name"
  | .setZoneName => "set_zone_name"

end Replacement

/-- The platforms on which a redirection applies. -/
inductive Platform where
  | any
  | linux
  | darwin
deriving DecidableEq, Repr

namespace Platform

def label : Platform → String
  | .any => "any"
  | .linux => "linux"
  | .darwin => "darwin"

/-- Whether a target with this operating system is of the platform. -/
def appliesTo (p : Platform) (targetOs : String) : Bool :=
  match p with
  | .any => true
  | .linux => targetOs == "linux"
  | .darwin => targetOs == "macos" || targetOs == "ios"

end Platform

/-- A symbol and the operation it must reach. -/
structure Redirection where
  symbol : String
  replacement : Replacement
  platform : Platform
deriving DecidableEq, Repr

namespace Redirection

/-- All redirections: the malloc family, the C++ operators new and delete with
their nothrow forms, the fork hooks and the zone functions. -/
def table : List Redirection :=
  [⟨"malloc", .malloc, .any⟩,
    ⟨"free", .free, .any⟩,
    ⟨"realloc", .realloc, .any⟩,
    ⟨"reallocf", .reallocf, .any⟩,
    ⟨"calloc", .calloc, .any⟩,
    ⟨"strdup", .strdup, .any⟩,
    ⟨"memalign", .memalign, .linux⟩,
    ⟨"posix_memalign", .posixMemalign, .any⟩,
    ⟨"aligned_alloc", .alignedAlloc, .any⟩,
    ⟨"valloc", .valloc, .any⟩,
    ⟨"vfree", .free, .any⟩,
    ⟨"malloc_usable_size", .usableSize, .linux⟩,
    ⟨"malloc_size", .usableSize, .darwin⟩,
    ⟨"malloc_good_size", .goodSize, .darwin⟩,
    ⟨"_Znwm", .malloc, .darwin⟩,
    ⟨"_Znam", .malloc, .darwin⟩,
    ⟨"_ZnwmRKSt9nothrow_t", .malloc, .darwin⟩,
    ⟨"_ZnamRKSt9nothrow_t", .malloc, .darwin⟩,
    ⟨"_ZdlPv", .free, .darwin⟩,
    ⟨"_ZdaPv", .free, .darwin⟩,
    ⟨"_ZdlPvRKSt9nothrow_t", .free, .darwin⟩,
    ⟨"_ZdaPvRKSt9nothrow_t", .free, .darwin⟩,
    ⟨"_malloc_fork_prepare", .forkPrepare, .darwin⟩,
    ⟨"_malloc_fork_parent", .forkParent, .darwin⟩,
    ⟨"_malloc_fork_child", .forkChild, .darwin⟩,
    ⟨"malloc_default_zone", .defaultZone, .darwin⟩,
    ⟨"malloc_default_purgeable_zone", .defaultZone, .darwin⟩,
    ⟨"malloc_zone_from_ptr", .zoneFromPtr, .darwin⟩,
    ⟨"malloc_create_zone", .createZone, .darwin⟩,
    ⟨"malloc_destroy_zone", .destroyZone, .darwin⟩,
    ⟨"malloc_get_zone_name", .zoneName, .darwin⟩,
    ⟨"malloc_set_zone_name", .setZoneName, .darwin⟩]

/-- The redirections of a target, in the order of the table. -/
def forTarget (targetOs : String) : List Redirection :=
  table.filter (·.platform.appliesTo targetOs)

/-- The symbols that the library exports where symbols are exported directly. -/
def exported : List String :=
  ["malloc", "free", "realloc", "reallocf", "calloc", "strdup", "memalign", "posix_memalign",
    "aligned_alloc", "valloc", "vfree", "malloc_usable_size"]

/-- The symbols that are replaced through a table of interposed functions. -/
def interposed : List String :=
  ["malloc", "free", "realloc", "reallocf", "calloc", "strdup", "posix_memalign",
    "aligned_alloc", "valloc", "vfree", "malloc_size", "malloc_good_size", "_Znwm", "_Znam",
    "_ZnwmRKSt9nothrow_t", "_ZnamRKSt9nothrow_t", "_ZdlPv", "_ZdaPv", "_ZdlPvRKSt9nothrow_t",
    "_ZdaPvRKSt9nothrow_t", "_malloc_fork_prepare", "_malloc_fork_parent", "_malloc_fork_child",
    "malloc_default_zone", "malloc_default_purgeable_zone", "malloc_zone_from_ptr",
    "malloc_create_zone", "malloc_destroy_zone", "malloc_get_zone_name", "malloc_set_zone_name"]

/-- Both lists hold just the symbols that their targets redirect, in the order
of the table. -/
theorem exported_interposed_complete :
    (forTarget "linux").map symbol = exported ∧
      (forTarget "macos").map symbol = interposed := by decide +kernel

/-- Whether two lists hold the same names in the same order. -/
def sameNames (a b : List String) : Bool := a == b

def toJson (r : Redirection) : Json :=
  .object [("original", .string r.symbol), ("replacement", .string r.replacement.label),
    ("platform", .string r.platform.label)]

end Redirection

/-- The names of the primitive and the redirections of one build. -/
structure SymbolReport where
  exportPrefix : ExportPrefix
  targetOs : String

namespace SymbolReport

def toJson (r : SymbolReport) : Json :=
  .object [("prefix", .string r.exportPrefix.text), ("target_os", .string r.targetOs),
    ("primitive", .object (PrimitiveRole.all.map fun role =>
      (role.label, .string (r.exportPrefix.name role)))),
    ("redirections", .array ((Redirection.forTarget r.targetOs).map Redirection.toJson))]

end SymbolReport

end MallocLayer
