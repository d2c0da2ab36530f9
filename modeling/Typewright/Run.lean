import Typewright.Resolution

/-!
A run over one document of types: the document is loaded, read as a spec, and everything in it is
declared.
-/
namespace Typewright

structure Start where
  document : Document
  spec : Spec

def rootPath (directory input : Path) : Path := (directory.join input).normalize

def Start.load (library : Library) (path : Path) : Resolve Start := do
  Resolve.record (.load path)
  let body ← Resolve.ofExcept (library.load path)
  let spec ← Resolve.ofExcept (Spec.decode body)
  return ⟨⟨path, body⟩, spec⟩

structure Outcome where
  spec : Spec
  generation : Generation

def declareDocument (library : Library) (tokens : TokenTable) (renderer : Renderer)
    (path : Path) : Resolve Outcome := do
  let start ← Start.load library path
  let workspace : Workspace := ⟨start.document, library, tokens, renderer⟩
  return ⟨start.spec, ← workspace.declareAll start.spec⟩

namespace Session

def loads (session : Session) : List Path :=
  session.trace.reverse.filterMap fun event =>
    match event with
    | .load path => some path
    | .render .. => none

def renderings (session : Session) : List (DeclarationKind × String) :=
  session.trace.reverse.filterMap fun event =>
    match event with
    | .load _ => none
    | .render kind name => some (kind, name)

end Session

end Typewright
