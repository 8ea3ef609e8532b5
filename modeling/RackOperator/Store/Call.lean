import RackOperator.Error
import RackOperator.Resource.StatefulSet
import RackOperator.Resource.Task

/-!
# What the store is asked

The store keeps the cluster's objects. A `StoreCall` is one operation on it, and
`StoreCall.Value` what a successful one answers.
-/

namespace RackOperator

/-- One operation on the store. -/
inductive StoreCall where
  | getStatefulSet (ns name : String)
  | createStatefulSet (ns : String) (sts : StatefulSet)
  | replaceStatefulSet (ns : String) (sts : StatefulSet)
  | ensureService (ns : String) (service : Service)
  | getDataCenter (ns name : String)
  | replaceDataCenterStatus (ns name : String) (status : DataCenterStatus)
  | getTask (ns name : String)
  | createTask (ns : String) (task : CassandraTask)
  | deleteTask (ns name : String)
  | replaceTaskStatus (ns name : String) (status : TaskStatus)

namespace StoreCall

/-- What a successful operation answers. -/
def Value : StoreCall → Type
  | getStatefulSet .. => Option StatefulSet
  | createStatefulSet .. => StatefulSet
  | replaceStatefulSet .. => StatefulSet
  | ensureService .. => Unit
  | getDataCenter .. => Option DataCenter
  | replaceDataCenterStatus .. => Unit
  | getTask .. => Option CassandraTask
  | createTask .. => CassandraTask
  | deleteTask .. => Unit
  | replaceTaskStatus .. => Unit

/-- The operation's name. -/
def name : StoreCall → String
  | getStatefulSet .. => "get_statefulset"
  | createStatefulSet .. => "create_statefulset"
  | replaceStatefulSet .. => "replace_statefulset"
  | ensureService .. => "ensure_service"
  | getDataCenter .. => "get_datacenter"
  | replaceDataCenterStatus .. => "replace_datacenter_status"
  | getTask .. => "get_task"
  | createTask .. => "create_task"
  | deleteTask .. => "delete_task"
  | replaceTaskStatus .. => "replace_task_status"

end StoreCall

end RackOperator
