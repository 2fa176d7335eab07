/-
The catalogue: the code table of each origin. A table is a list of names numbered downward from its
first code, so it passes the acceptance test by construction. All but the last origin give their
first code, the floor, to `UNKNOWN`.
-/
import FaultCodes.Catalogue.Builtin
import FaultCodes.Catalogue.Driver
import FaultCodes.Catalogue.Framework
import FaultCodes.Catalogue.Application
import FaultCodes.Catalogue.DbLibrary
import FaultCodes.Catalogue.Toolkit
import FaultCodes.Catalogue.Other

namespace FaultCodes.Catalogue

/-- the names with their codes, from `first` downward -/
def numbered (first : Int32) : List String → List Entry
  | [] => []
  | name :: names => (name.toList, first) :: numbered (first - 1) names

/-- language built-ins -/
def builtin : CodeTable := ⟨.builtin, numbered (-31000) builtinNames⟩

/-- database driver -/
def driver : CodeTable := ⟨.driver, numbered (-30000) driverNames⟩

/-- web framework -/
def framework : CodeTable := ⟨.framework, numbered (-29000) frameworkNames⟩

/-- the application -/
def application : CodeTable := ⟨.application, numbered (-28000) applicationNames⟩

/-- database access layer -/
def dbLibrary : CodeTable := ⟨.dbLibrary, numbered (-27000) dbLibraryNames⟩

/-- SQL toolkit -/
def toolkit : CodeTable := ⟨.toolkit, numbered (-26000) toolkitNames⟩

/-- everything else -/
def other : CodeTable := ⟨.other, numbered (-25001) otherNames⟩

def table : Origin → CodeTable
  | .builtin => builtin
  | .driver => driver
  | .framework => framework
  | .application => application
  | .dbLibrary => dbLibrary
  | .toolkit => toolkit
  | .other => other

/-- Each table belongs to the origin it is asked for. -/
@[simp] theorem origin_table (o : Origin) : (table o).origin = o := by
  cases o <;> rfl

end FaultCodes.Catalogue
