import RackOperator.Config
import RackOperator.Json.Fields
import RackOperator.Json.Record
import RackOperator.StatusCache
import RackOperator.Store.Call

/-!
# What a rehearsal is written in

Names, racks, members, statuses and store operations as a rehearsal's script
gives them in JSON. A rack is an index or an object with an index and a name;
an index whose number does not fit 64 bits gives no rack.
-/

namespace RackOperator

open Json

/-- What names are made of, each part with a default. -/
def Naming.ofJson (j : Json) : Naming :=
  { cluster := j.strOr "cluster" "c1", datacenter := j.strOr "datacenter" "dc1",
    ns := j.strOr "namespace" "default", sidecarPort := j.intOr "port" 8080 }

/-- A rack. -/
def Rack.ofJson? : Json → Option Rack
  | .int i => if Rack.isNumbered i.toNat then some (Rack.new i.toNat) else none
  | j => some ⟨(j.intOf "index").toNat, j.strOf "name"⟩

/-- A rack with a count. -/
def Rack.countOfJson? (j : Json) : Option (Rack × Int) :=
  match itemsOf j with
  | [r, .int n] => (Rack.ofJson? r).map fun r => (r, n)
  | _ => none

/-- The members of a list of racks with counts. -/
def Member.listOfJson? (j : Json) : Option (List Member) :=
  ((j.listOf "racks").mapM Rack.countOfJson?).map fun ps =>
    ps.flatMap fun p => (Naming.ofJson j).members p.1 p.2

/-- A namespace and a name. -/
def NamespacedName.ofJson (j : Json) : NamespacedName :=
  match itemsOf j with
  | [.str ns, .str name] => ⟨ns, name⟩
  | _ => ⟨"", ""⟩

/-- A status by its name, UNKNOWN if there is none of that name. -/
def NodeStatus.named (s : String) : NodeStatus :=
  (named? (Tagged.table (α := NodeStatus)) s).getD .unknown

/-- A phase by its name, RUNNING if there is none of that name. -/
def DataCenterPhase.named (s : String) : DataCenterPhase :=
  (named? (Tagged.table (α := DataCenterPhase)) s).getD .running

/-- The statuses of pods. -/
def NodeStatus.pairsOfJson (j : Json) : List (String × NodeStatus) :=
  (pairsOf j).map fun p => (p.1, .named (asText p.2))

/-- Settings from an object of variables. -/
def Config.ofJson? (j : Json) : Option Config :=
  Config.ofLookup? fun key => (j.field? key).bind text?

/-- A store operation, if its object can be read. -/
def StoreCall.ofJson? (j : Json) : Option StoreCall :=
  let ns := j.strOr "namespace" "default"
  let name := j.strOf "name"
  let object := j.get "object"
  match j.strOf "call" with
  | "get_statefulset" => some (.getStatefulSet ns name)
  | "create_statefulset" => (StatefulSet.decode? object).map (.createStatefulSet ns ·)
  | "replace_statefulset" => (StatefulSet.decode? object).map (.replaceStatefulSet ns ·)
  | "ensure_service" => (Service.decode? object).map (.ensureService ns ·)
  | "get_datacenter" => some (.getDataCenter ns name)
  | "replace_datacenter_status" =>
    (DataCenterStatus.decode? object).map (.replaceDataCenterStatus ns name ·)
  | "get_task" => some (.getTask ns name)
  | "create_task" => (CassandraTask.decode? object).map (.createTask ns ·)
  | "delete_task" => some (.deleteTask ns name)
  | _ => (TaskStatus.decode? object).map (.replaceTaskStatus ns name ·)

end RackOperator
