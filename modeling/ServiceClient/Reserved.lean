/-!
Names that are taken. A record has members of its own beside its fields, and a field of the same
name would hide one of them, so a description that declares such a field is refused.
-/

namespace ServiceClient

/-- The names no field can have: those of the members every record has of its own. -/
def reservedNames : List String := [
    "__annotations__", "__base__", "__bases__", "__basicsize__", "__call__", "__class__",
    "__delattr__", "__dict__", "__dictoffset__", "__dir__", "__doc__", "__eq__", "__flags__",
    "__format__", "__ge__", "__getattribute__", "__getstate__", "__gt__", "__hash__", "__init__",
    "__init_subclass__", "__instancecheck__", "__itemsize__", "__le__", "__lt__", "__module__",
    "__mro__", "__name__", "__ne__", "__new__", "__or__", "__prepare__", "__qualname__",
    "__reduce__", "__reduce_ex__", "__repr__", "__ror__", "__setattr__", "__sizeof__", "__str__",
    "__subclasscheck__", "__subclasses__", "__subclasshook__", "__text_signature__",
    "__weakref__", "__weakrefoffset__", "_checks", "_fields", "_type_name", "_types",
    "from_wire_form", "gui", "mro", "to_wire_form"]

def isReserved (field : String) : Bool := reservedNames.contains field

end ServiceClient
