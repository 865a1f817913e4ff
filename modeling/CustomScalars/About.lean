/-!
# Names of the library

How the library is called in packages, in reports and in lists of installed applications.
-/
namespace CustomScalars.About

def name : String := "rail-scalars"

def version : String := "0.1.0"

def label : String := "rail_scalars"

def title : String := "Rail GraphQL Scalars"

end CustomScalars.About
