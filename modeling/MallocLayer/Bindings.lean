import MallocLayer.Config
import MallocLayer.ExportPrefix
import MallocLayer.Text.Lines

/-!
# Generated bindings

What a build of the layer generates for the compiler: the declarations of the
primitive's symbols under the chosen prefix, the constants of the
configuration, and the directives for the linker.
-/

namespace MallocLayer.Bindings

/-- The declaration of a role. -/
def declaration : PrimitiveRole → String
  | .allocate => "fn primitive_allocate(size: usize) -> *mut c_void;"
  | .deallocate => "fn primitive_deallocate(ptr: *mut c_void);"
  | .usableSize => "fn primitive_usable_size(ptr: *mut c_void) -> usize;"
  | .lock => "fn primitive_lock();"
  | .unlock => "fn primitive_unlock();"

/-- The first line of a generated file. -/
def banner : String := "// @generated by build.rs"

/-- Each line with the line feed that ends it. -/
def unlines (lines : List String) : String := String.join (lines.map (· ++ "\n"))

/-- The lines of the file of declarations: for each role the symbol that it is
linked to, and the declaration. -/
def declarationLines (p : ExportPrefix) : List String :=
  [banner, "unsafe extern \"C\" \x7b"] ++
    PrimitiveRole.all.flatMap (fun role =>
      ["    #[link_name = \"" ++ p.name role ++ "\"]", "    " ++ declaration role]) ++
    ["\x7d"]

/-- The file of declarations. -/
def declarations (p : ExportPrefix) : String := unlines (declarationLines p)

/-- The lines of the file of constants. -/
def constantLines (p : ExportPrefix) (interiorFree : Bool) : List String :=
  [banner,
    "/// Prefix of the primitive symbols.",
    "pub const EXPORT_PREFIX: &str = " ++ Text.quoted p.text ++ ";",
    "/// Primitive symbol names: allocate, deallocate, usable-size, lock, unlock.",
    "pub const PRIMITIVE_NAMES: [&str; 5] = [" ++
      ", ".intercalate (p.names.map Text.quoted) ++ "];",
    "/// Whether the primitive releases interior pointers.",
    "pub const INTERIOR_FREE: bool = " ++ (if interiorFree then "true" else "false") ++ ";"]

/-- The file of constants. -/
def constants (p : ExportPrefix) (interiorFree : Bool) : String :=
  unlines (constantLines p interiorFree)

/-- The environment of a build. A variable that is unset is `none`. -/
structure Environment where
  /-- `HEAPWRAP_EXPORT_PREFIX` -/
  exportPrefix : Option String := none
  /-- `HEAPWRAP_INTERIOR_FREE` -/
  interiorFree : Option String := none
  /-- `HEAPWRAP_PRIMITIVE_LIB` -/
  library : Option String := none
  /-- `HEAPWRAP_PRIMITIVE_LIB_DIR` -/
  libraryDir : Option String := none
  /-- The operating system of the target. -/
  targetOs : Option String := none
deriving DecidableEq, Repr

namespace Environment

/-- Whether the primitive releases interior pointers: yes, unless the variable
says no. Blanks around the word do not count, nor does ASCII case. -/
def releasesInterior (env : Environment) : Bool :=
  match env.interiorFree with
  | none => true
  | some word =>
    let word := asciiLower (String.ofList (Text.trim word.toList))
    !(["0", "false", "no", "off"].contains word)

/-- What the build depends on. -/
def dependencies : List String :=
  ["cargo:rerun-if-env-changed=HEAPWRAP_EXPORT_PREFIX",
    "cargo:rerun-if-env-changed=HEAPWRAP_INTERIOR_FREE",
    "cargo:rerun-if-env-changed=HEAPWRAP_PRIMITIVE_LIB",
    "cargo:rerun-if-env-changed=HEAPWRAP_PRIMITIVE_LIB_DIR",
    "cargo:rerun-if-changed=build.rs"]

/-- How the primitive is linked. Where no library is named, it is found when the
program is loaded, which one platform has to be told. -/
def linkage (env : Environment) : List String :=
  (env.libraryDir.map ("cargo:rustc-link-search=native=" ++ ·)).toList ++
    match env.library with
    | some library => ["cargo:rustc-link-lib=dylib=" ++ library]
    | none =>
      if env.targetOs = some "macos" then
        ["cargo:rustc-cdylib-link-arg=-Wl,-undefined,dynamic_lookup"]
      else []

end Environment

/-- What a build produces. -/
structure Output where
  directives : String
  declarations : String
  constants : String
deriving DecidableEq, Repr

/-- Why a build stops: the prefix is not valid. -/
structure Rejection where
  text : String
  cause : PrefixError
deriving DecidableEq, Repr

def Rejection.message (r : Rejection) : String :=
  "HEAPWRAP_EXPORT_PREFIX=" ++ Text.quoted r.text ++ ": " ++ r.cause.message

/-- Runs a build. -/
def build (env : Environment) : Except Rejection Output :=
  let text := env.exportPrefix.getD ExportPrefix.default.text
  match ExportPrefix.ofString text with
  | .error cause => .error ⟨text, cause⟩
  | .ok p => .ok {
      directives := unlines (Environment.dependencies ++ env.linkage)
      declarations := declarations p
      constants := constants p env.releasesInterior }

end MallocLayer.Bindings
