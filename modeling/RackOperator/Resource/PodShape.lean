import RackOperator.Resource.Shape

/-!
# Shapes of pods, claims and services

The parts of a StatefulSet's pod template, of its volume claims and of a Service,
as the cluster's version 1.32 defines them. A quantity is a text.
-/

namespace RackOperator.Shape

/-- Metadata of an embedded object. -/
def metadata : Shape :=
  .record [may "annotations" (.map .text), may "creationTimestamp" .instant,
    may "deletionGracePeriodSeconds" .int64, may "deletionTimestamp" .instant,
    may "finalizers" (.list .text), may "generateName" .text, may "generation" .int64,
    may "labels" (.map .text),
    may "managedFields" (.list (.record [may "apiVersion" .text, may "fieldsType" .text,
      may "fieldsV1" .any, may "manager" .text, may "operation" .text, may "subresource" .text,
      may "time" .instant])),
    may "name" .text, may "namespace" .text,
    may "ownerReferences" (.list (.record [must "apiVersion" .text,
      may "blockOwnerDeletion" .truth, may "controller" .truth, must "kind" .text,
      must "name" .text, must "uid" .text])),
    may "resourceVersion" .text, may "selfLink" .text, may "uid" .text]

/-- A selector by labels. -/
def labelSelector : Shape :=
  .record [may "matchExpressions" (.list (.record [must "key" .text, must "operator" .text,
      may "values" (.list .text)])),
    may "matchLabels" (.map .text)]

/-- A condition an object is in. -/
def condition : Shape :=
  .record [may "lastTransitionTime" .instant, may "message" .text, may "reason" .text,
    must "status" .text, must "type" .text]

/-- Name of an object beside this one; always written. -/
def localName : Shape := .record [must "name" .text]

/-- Name of an object, a key in it, and whether it may be missing. -/
def keyOf : Shape := .record [must "key" .text, must "name" .text, may "optional" .truth]

/-- A field of the pod's own object. -/
def fieldRef : Shape := .record [may "apiVersion" .text, must "fieldPath" .text]

/-- A resource of one of the pod's containers. -/
def resourceFieldRef : Shape :=
  .record [may "containerName" .text, may "divisor" .text, must "resource" .text]

/-- An environment variable. -/
def envVar : Shape :=
  .record [must "name" .text, may "value" .text,
    may "valueFrom" (.record [may "configMapKeyRef" keyOf, may "fieldRef" fieldRef,
      may "resourceFieldRef" resourceFieldRef, may "secretKeyRef" keyOf])]

/-- A set of environment variables. -/
def envFrom : Shape :=
  .record [may "configMapRef" (.record [must "name" .text, may "optional" .truth]),
    may "prefix" .text, may "secretRef" (.record [must "name" .text, may "optional" .truth])]

/-- A command to run. -/
def execAction : Shape := .record [may "command" (.list .text)]

/-- A request to send. -/
def httpGet : Shape :=
  .record [may "host" .text,
    may "httpHeaders" (.list (.record [must "name" .text, must "value" .text])),
    may "path" .text, must "port" .intOrText, may "scheme" .text]

/-- A port to connect to. -/
def tcpSocket : Shape := .record [may "host" .text, must "port" .intOrText]

/-- What to do when a container starts or stops. -/
def lifecycleHandler : Shape :=
  .record [may "exec" execAction, may "httpGet" httpGet,
    may "sleep" (.record [must "seconds" .int64]), may "tcpSocket" tcpSocket]

/-- A check of a container's health. -/
def probe : Shape :=
  .record [may "exec" execAction, may "failureThreshold" .int32,
    may "grpc" (.record [must "port" .int32, may "service" .text]), may "httpGet" httpGet,
    may "initialDelaySeconds" .int32, may "periodSeconds" .int32, may "successThreshold" .int32,
    may "tcpSocket" tcpSocket, may "terminationGracePeriodSeconds" .int64,
    may "timeoutSeconds" .int32]

/-- A container's resources. -/
def containerResources : Shape :=
  .record [may "claims" (.list (.record [must "name" .text, may "request" .text])),
    may "limits" (.map .text), may "requests" (.map .text)]

/-- Labels of the system's mandatory access control. -/
def seLinux : Shape :=
  .record [may "level" .text, may "role" .text, may "type" .text, may "user" .text]

/-- A profile of allowed system calls. -/
def profile : Shape := .record [may "localhostProfile" .text, must "type" .text]

/-- Options of a host of another kind. -/
def windowsOptions : Shape :=
  .record [may "gmsaCredentialSpec" .text, may "gmsaCredentialSpecName" .text,
    may "hostProcess" .truth, may "runAsUserName" .text]

/-- Rights of one container. -/
def containerSecurity : Shape :=
  .record [may "allowPrivilegeEscalation" .truth, may "appArmorProfile" profile,
    may "capabilities" (.record [may "add" (.list .text), may "drop" (.list .text)]),
    may "privileged" .truth, may "procMount" .text, may "readOnlyRootFilesystem" .truth,
    may "runAsGroup" .int64, may "runAsNonRoot" .truth, may "runAsUser" .int64,
    may "seLinuxOptions" seLinux, may "seccompProfile" profile,
    may "windowsOptions" windowsOptions]

/-- The fields of a container. -/
def containerFields : List (String × Bool × Shape) :=
  [may "args" (.list .text), may "command" (.list .text), may "env" (.list envVar),
    may "envFrom" (.list envFrom), may "image" .text, may "imagePullPolicy" .text,
    may "lifecycle" (.record [may "postStart" lifecycleHandler, may "preStop" lifecycleHandler]),
    may "livenessProbe" probe, must "name" .text,
    may "ports" (.list (.record [must "containerPort" .int32, may "hostIP" .text,
      may "hostPort" .int32, may "name" .text, may "protocol" .text])),
    may "readinessProbe" probe,
    may "resizePolicy" (.list (.record [must "resourceName" .text, must "restartPolicy" .text])),
    may "resources" containerResources, may "restartPolicy" .text,
    may "securityContext" containerSecurity, may "startupProbe" probe, may "stdin" .truth,
    may "stdinOnce" .truth, may "terminationMessagePath" .text,
    may "terminationMessagePolicy" .text, may "tty" .truth,
    may "volumeDevices" (.list (.record [must "devicePath" .text, must "name" .text])),
    may "volumeMounts" (.list (.record [must "mountPath" .text, may "mountPropagation" .text,
      must "name" .text, may "readOnly" .truth, may "recursiveReadOnly" .text,
      may "subPath" .text, may "subPathExpr" .text])),
    may "workingDir" .text]

/-- A container. -/
def container : Shape := .record containerFields

/-- A container added to a running pod. -/
def ephemeralContainer : Shape :=
  .record (may "targetContainerName" .text :: containerFields)

/-- Terms a node is chosen by. -/
def nodeTerm : Shape :=
  let requirement : Shape :=
    .record [must "key" .text, must "operator" .text, may "values" (.list .text)]
  .record [may "matchExpressions" (.list requirement), may "matchFields" (.list requirement)]

/-- Terms a pod is chosen by. -/
def podTerm : Shape :=
  .record [may "labelSelector" labelSelector, may "matchLabelKeys" (.list .text),
    may "mismatchLabelKeys" (.list .text), may "namespaceSelector" labelSelector,
    may "namespaces" (.list .text), must "topologyKey" .text]

/-- Required and preferred neighbours. -/
def podAffinity : Shape :=
  .record [may "preferredDuringSchedulingIgnoredDuringExecution"
      (.list (.record [must "podAffinityTerm" podTerm, must "weight" .int32])),
    may "requiredDuringSchedulingIgnoredDuringExecution" (.list podTerm)]

/-- Where pods prefer to run. -/
def affinity : Shape :=
  .record [may "nodeAffinity" (.record [
      may "preferredDuringSchedulingIgnoredDuringExecution"
        (.list (.record [must "preference" nodeTerm, must "weight" .int32])),
      may "requiredDuringSchedulingIgnoredDuringExecution"
        (.record [must "nodeSelectorTerms" (.list nodeTerm)])]),
    may "podAffinity" podAffinity, may "podAntiAffinity" podAffinity]

/-- Resources a volume claim asks for. -/
def volumeResources : Shape :=
  .record [may "limits" (.map .text), may "requests" (.map .text)]

/-- What a volume claim asks for. -/
def claimSpec : Shape :=
  .record [may "accessModes" (.list .text),
    may "dataSource" (.record [may "apiGroup" .text, must "kind" .text, must "name" .text]),
    may "dataSourceRef" (.record [may "apiGroup" .text, must "kind" .text, must "name" .text,
      may "namespace" .text]),
    may "resources" volumeResources, may "selector" labelSelector, may "storageClassName" .text,
    may "volumeAttributesClassName" .text, may "volumeMode" .text, may "volumeName" .text]

/-- A key of an object as a file. -/
def keyToPath : Shape := .record [must "key" .text, may "mode" .int32, must "path" .text]

/-- Files with fields of the pod's own object. -/
def downwardFile : Shape :=
  .record [may "fieldRef" fieldRef, may "mode" .int32, must "path" .text,
    may "resourceFieldRef" resourceFieldRef]

/-- One source of a projected volume. -/
def projection : Shape :=
  .record [
    may "clusterTrustBundle" (.record [may "labelSelector" labelSelector, may "name" .text,
      may "optional" .truth, must "path" .text, may "signerName" .text]),
    may "configMap" (.record [may "items" (.list keyToPath), must "name" .text,
      may "optional" .truth]),
    may "downwardAPI" (.record [may "items" (.list downwardFile)]),
    may "secret" (.record [may "items" (.list keyToPath), must "name" .text,
      may "optional" .truth]),
    may "serviceAccountToken" (.record [may "audience" .text, may "expirationSeconds" .int64,
      must "path" .text])]

/-- Volumes on disks that a host attaches. -/
def attachedVolumes : List (String × Bool × Shape) :=
  [may "awsElasticBlockStore" (.record [may "fsType" .text, may "partition" .int32,
      may "readOnly" .truth, must "volumeID" .text]),
    may "azureDisk" (.record [may "cachingMode" .text, must "diskName" .text,
      must "diskURI" .text, may "fsType" .text, may "kind" .text, may "readOnly" .truth]),
    may "cinder" (.record [may "fsType" .text, may "readOnly" .truth, may "secretRef" localName,
      must "volumeID" .text]),
    may "fc" (.record [may "fsType" .text, may "lun" .int32, may "readOnly" .truth,
      may "targetWWNs" (.list .text), may "wwids" (.list .text)]),
    may "flexVolume" (.record [must "driver" .text, may "fsType" .text,
      may "options" (.map .text), may "readOnly" .truth, may "secretRef" localName]),
    may "flocker" (.record [may "datasetName" .text, may "datasetUUID" .text]),
    may "gcePersistentDisk" (.record [may "fsType" .text, may "partition" .int32,
      must "pdName" .text, may "readOnly" .truth]),
    may "iscsi" (.record [may "chapAuthDiscovery" .truth, may "chapAuthSession" .truth,
      may "fsType" .text, may "initiatorName" .text, must "iqn" .text,
      may "iscsiInterface" .text, must "lun" .int32, may "portals" (.list .text),
      may "readOnly" .truth, may "secretRef" localName, must "targetPortal" .text]),
    may "photonPersistentDisk" (.record [may "fsType" .text, must "pdID" .text]),
    may "portworxVolume" (.record [may "fsType" .text, may "readOnly" .truth,
      must "volumeID" .text]),
    may "rbd" (.record [may "fsType" .text, must "image" .text, may "keyring" .text,
      must "monitors" (.list .text), may "pool" .text, may "readOnly" .truth,
      may "secretRef" localName, may "user" .text]),
    may "scaleIO" (.record [may "fsType" .text, must "gateway" .text,
      may "protectionDomain" .text, may "readOnly" .truth, must "secretRef" localName,
      may "sslEnabled" .truth, may "storageMode" .text, may "storagePool" .text,
      must "system" .text, may "volumeName" .text]),
    may "storageos" (.record [may "fsType" .text, may "readOnly" .truth,
      may "secretRef" localName, may "volumeName" .text, may "volumeNamespace" .text]),
    may "vsphereVolume" (.record [may "fsType" .text, may "storagePolicyID" .text,
      may "storagePolicyName" .text, must "volumePath" .text])]

/-- Volumes on file systems that a host mounts. -/
def mountedVolumes : List (String × Bool × Shape) :=
  [may "azureFile" (.record [may "readOnly" .truth, must "secretName" .text,
      must "shareName" .text]),
    may "cephfs" (.record [must "monitors" (.list .text), may "path" .text,
      may "readOnly" .truth, may "secretFile" .text, may "secretRef" localName,
      may "user" .text]),
    may "gitRepo" (.record [may "directory" .text, must "repository" .text,
      may "revision" .text]),
    may "glusterfs" (.record [must "endpoints" .text, must "path" .text,
      may "readOnly" .truth]),
    may "nfs" (.record [must "path" .text, may "readOnly" .truth, must "server" .text]),
    may "quobyte" (.record [may "group" .text, may "readOnly" .truth, must "registry" .text,
      may "tenant" .text, may "user" .text, must "volume" .text])]

/-- A volume of a pod. -/
def volume : Shape :=
  .record (attachedVolumes ++ mountedVolumes ++ [
    may "configMap" (.record [may "defaultMode" .int32, may "items" (.list keyToPath),
      must "name" .text, may "optional" .truth]),
    may "csi" (.record [must "driver" .text, may "fsType" .text,
      may "nodePublishSecretRef" localName, may "readOnly" .truth,
      may "volumeAttributes" (.map .text)]),
    may "downwardAPI" (.record [may "defaultMode" .int32, may "items" (.list downwardFile)]),
    may "emptyDir" (.record [may "medium" .text, may "sizeLimit" .text]),
    may "ephemeral" (.record [may "volumeClaimTemplate" (.record [may "metadata" metadata,
      must "spec" claimSpec])]),
    may "hostPath" (.record [must "path" .text, may "type" .text]),
    may "image" (.record [may "pullPolicy" .text, may "reference" .text]),
    must "name" .text,
    may "persistentVolumeClaim" (.record [must "claimName" .text, may "readOnly" .truth]),
    may "projected" (.record [may "defaultMode" .int32, may "sources" (.list projection)]),
    may "secret" (.record [may "defaultMode" .int32, may "items" (.list keyToPath),
      may "optional" .truth, may "secretName" .text])])

/-- Rights of all containers of a pod. -/
def podSecurity : Shape :=
  .record [may "appArmorProfile" profile, may "fsGroup" .int64,
    may "fsGroupChangePolicy" .text, may "runAsGroup" .int64, may "runAsNonRoot" .truth,
    may "runAsUser" .int64, may "seLinuxChangePolicy" .text, may "seLinuxOptions" seLinux,
    may "seccompProfile" profile, may "supplementalGroups" (.list .int64),
    may "supplementalGroupsPolicy" .text,
    may "sysctls" (.list (.record [must "name" .text, must "value" .text])),
    may "windowsOptions" windowsOptions]

/-- What a pod runs. -/
def podSpec : Shape :=
  .record [may "activeDeadlineSeconds" .int64, may "affinity" affinity,
    may "automountServiceAccountToken" .truth, must "containers" (.list container),
    may "dnsConfig" (.record [may "nameservers" (.list .text),
      may "options" (.list (.record [may "name" .text, may "value" .text])),
      may "searches" (.list .text)]),
    may "dnsPolicy" .text, may "enableServiceLinks" .truth,
    may "ephemeralContainers" (.list ephemeralContainer),
    may "hostAliases" (.list (.record [may "hostnames" (.list .text), must "ip" .text])),
    may "hostIPC" .truth, may "hostNetwork" .truth, may "hostPID" .truth,
    may "hostUsers" .truth, may "hostname" .text, may "imagePullSecrets" (.list localName),
    may "initContainers" (.list container), may "nodeName" .text,
    may "nodeSelector" (.map .text), may "os" localName, may "overhead" (.map .text),
    may "preemptionPolicy" .text, may "priority" .int32, may "priorityClassName" .text,
    may "readinessGates" (.list (.record [must "conditionType" .text])),
    may "resourceClaims" (.list (.record [must "name" .text, may "resourceClaimName" .text,
      may "resourceClaimTemplateName" .text])),
    may "resources" containerResources, may "restartPolicy" .text,
    may "runtimeClassName" .text, may "schedulerName" .text,
    may "schedulingGates" (.list localName), may "securityContext" podSecurity,
    may "serviceAccount" .text, may "serviceAccountName" .text,
    may "setHostnameAsFQDN" .truth, may "shareProcessNamespace" .truth, may "subdomain" .text,
    may "terminationGracePeriodSeconds" .int64,
    may "tolerations" (.list (.record [may "effect" .text, may "key" .text,
      may "operator" .text, may "tolerationSeconds" .int64, may "value" .text])),
    may "topologySpreadConstraints" (.list (.record [may "labelSelector" labelSelector,
      may "matchLabelKeys" (.list .text), must "maxSkew" .int32, may "minDomains" .int32,
      may "nodeAffinityPolicy" .text, may "nodeTaintsPolicy" .text, must "topologyKey" .text,
      must "whenUnsatisfiable" .text])),
    may "volumes" (.list volume)]

/-- The pods of a StatefulSet. -/
def podTemplate : Shape := .record [may "metadata" metadata, may "spec" podSpec]

/-- A volume claim inside a StatefulSet. -/
def volumeClaim : Shape :=
  .record [must "apiVersion" (.exactly "v1"), must "kind" (.exactly "PersistentVolumeClaim"),
    must "metadata" metadata, may "spec" claimSpec,
    may "status" (.record [may "accessModes" (.list .text),
      may "allocatedResourceStatuses" (.map .text), may "allocatedResources" (.map .text),
      may "capacity" (.map .text),
      may "conditions" (.list (.record [may "lastProbeTime" .instant,
        may "lastTransitionTime" .instant, may "message" .text, may "reason" .text,
        must "status" .text, must "type" .text])),
      may "currentVolumeAttributesClassName" .text,
      may "modifyVolumeStatus" (.record [must "status" .text,
        may "targetVolumeAttributesClassName" .text]),
      may "phase" .text])]

/-- What a StatefulSet asks for besides its replica count. -/
def statefulSetSpec : List (String × Bool × Shape) :=
  [may "minReadySeconds" .int32, may "ordinals" (.record [may "start" .int32]),
    may "persistentVolumeClaimRetentionPolicy"
      (.record [may "whenDeleted" .text, may "whenScaled" .text]),
    may "podManagementPolicy" .text, may "revisionHistoryLimit" .int32,
    must "selector" labelSelector, must "serviceName" .text, must "template" podTemplate,
    may "updateStrategy" (.record [
      may "rollingUpdate" (.record [may "maxUnavailable" .intOrText, may "partition" .int32]),
      may "type" .text]),
    may "volumeClaimTemplates" (.list volumeClaim)]

/-- What a Service asks for. -/
def serviceSpec : Shape :=
  .record [may "allocateLoadBalancerNodePorts" .truth, may "clusterIP" .text,
    may "clusterIPs" (.list .text), may "externalIPs" (.list .text), may "externalName" .text,
    may "externalTrafficPolicy" .text, may "healthCheckNodePort" .int32,
    may "internalTrafficPolicy" .text, may "ipFamilies" (.list .text),
    may "ipFamilyPolicy" .text, may "loadBalancerClass" .text, may "loadBalancerIP" .text,
    may "loadBalancerSourceRanges" (.list .text),
    may "ports" (.list (.record [may "appProtocol" .text, may "name" .text,
      may "nodePort" .int32, must "port" .int32, may "protocol" .text,
      may "targetPort" .intOrText])),
    may "publishNotReadyAddresses" .truth, may "selector" (.map .text),
    may "sessionAffinity" .text,
    may "sessionAffinityConfig"
      (.record [may "clientIP" (.record [may "timeoutSeconds" .int32])]),
    may "trafficDistribution" .text, may "type" .text]

/-- What is known of a Service. -/
def serviceStatus : Shape :=
  .record [
    may "conditions" (.list (.record [must "lastTransitionTime" .instant, must "message" .text,
      may "observedGeneration" .int64, must "reason" .text, must "status" .text,
      must "type" .text])),
    may "loadBalancer" (.record [may "ingress" (.list (.record [may "hostname" .text,
      may "ip" .text, may "ipMode" .text,
      may "ports" (.list (.record [may "error" .text, must "port" .int32,
        must "protocol" .text]))]))])]

end RackOperator.Shape
