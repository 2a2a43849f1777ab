import SketchHelp.Page.Config
import SketchHelp.Page.Log

/-!
The address of a help page: the base address, the category's path, and a query with the
hint's parameters before the global ones. Where some value cannot be written, the page
gives way as a whole to the default page, so no address is ever written in part.
-/

namespace SketchHelp.Config

/-- The page that is shown when there is nothing in particular to show. -/
def defaultIdentifier (config : Config) : Text :=
  let query := Query.join config.globalParameters
  if query.isEmpty then config.base else config.base ++ CodePoint.ofChar '?' :: query

/-- The address of the page of a category with parameters that are already written. -/
def identifier (config : Config) (category : Category) (parameters : Parameters) : Text :=
  config.base ++ category.toText ++
    CodePoint.ofChar '?' :: Query.join (parameters ++ config.globalParameters)

/-- The address of a hint's page, and what there is to tell about it. -/
def resolve (config : Config) (hint : Hint) : Text × Log :=
  match Query.encodeAll hint.parameters with
  | .ok parameters => (config.identifier hint.category parameters, [])
  | .error fault => (config.defaultIdentifier, [.fallback hint.category fault])

end SketchHelp.Config
