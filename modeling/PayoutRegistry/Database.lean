/-!
Addresses of databases. A database of the file kind is locked for writing at the start of a transaction;
the others lock single rows.
-/
namespace PayoutRegistry.Database

/-- The kind of database that an address names: its first word. -/
def kind (address : String) : String :=
  String.ofList (address.toList.takeWhile fun c => c != '+' && c != ':')

/-- Whether a transaction takes the write lock as it begins. -/
def locksAtBegin (address : String) : Bool := kind address == "sqlite"

end PayoutRegistry.Database
