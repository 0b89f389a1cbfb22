import GateOperator.Object.ClusterOperator
import GateOperator.Object.ClusterVersion
import GateOperator.Object.FeatureGate
import GateOperator.Object.Infrastructure
import GateOperator.Object.NodeConfig
import GateOperator.Schema.Objects
import GateOperator.Yaml.Writer

/-!
Resource definitions: how the cluster is told of a kind of object, its names and its schema. They are
written as manifests, one file for each kind.
-/

namespace GateOperator

/-- The definition of a kind of object. -/
structure Definition where
  kind : String
  plural : String
  singular : String
  /-- The name of the type of objects, which heads their schema. -/
  title : String
  description : String
  spec : Schema
  /-- Objects without a status have no schema for it. -/
  status : Option Schema
  /-- The file that the definition is written to. -/
  file : String

namespace Definition

/-- The group of all kinds. -/
def group : String := "config.openshift.io"

/-- The schema of whole objects; their metadata are not part of it. -/
def schema (d : Definition) : Schema :=
  .record { description := d.description, title := d.title }
    (("spec", d.spec) :: (d.status.map fun s => ("status", s)).toList)
    ["spec"]

/-- The definition as an object of the cluster. -/
def write (d : Definition) : Value := .record [
  ("apiVersion", .text "apiextensions.k8s.io/v1"),
  ("kind", .text "CustomResourceDefinition"),
  ("metadata", .record [("name", .text (d.plural ++ "." ++ group))]),
  ("spec", .record [
    ("group", .text group),
    ("names", .record [
      ("categories", .list []),
      ("kind", .text d.kind),
      ("plural", .text d.plural),
      ("shortNames", .list []),
      ("singular", .text d.singular)]),
    ("scope", .text "Cluster"),
    ("versions", .list [.record [
      ("additionalPrinterColumns", .list []),
      ("name", .text "v1"),
      ("schema", .record [("openAPIV3Schema", d.schema.write)]),
      ("served", .bool true),
      ("storage", .bool true),
      ("subresources", .record (if d.status.isSome then [("status", .record [])] else []))]])])]

/-- Feature gate objects. -/
def featureGate : Definition where
  kind := FeatureGate.kind.name
  plural := FeatureGate.kind.plural
  singular := "featuregate"
  title := "FeatureGate"
  description := 
    "FeatureGate selects the cluster feature set and records the resolved feature gates for each release version."
  spec := Schema.featureGateSpec
  status := Schema.featureGateStatus
  file := "featuregates.crd.yaml"

/-- Cluster version objects. -/
def clusterVersion : Definition where
  kind := ClusterVersion.kind.name
  plural := ClusterVersion.kind.plural
  singular := "clusterversion"
  title := "ClusterVersion"
  description := "ClusterVersion records the cluster's release and upgrade history."
  spec := Schema.clusterVersionSpec
  status := Schema.clusterVersionStatus
  file := "clusterversions.crd.yaml"

def nodeConfig : Definition where
  kind := NodeConfig.kind.name
  plural := NodeConfig.kind.plural
  singular := "node"
  title := "NodeConfig"
  description := "Node holds cluster-wide node configuration, including the minimum kubelet version."
  spec := Schema.nodeConfigSpec
  status := none
  file := "nodes.config.crd.yaml"

/-- Infrastructure objects. -/
def infrastructure : Definition where
  kind := Infrastructure.kind.name
  plural := Infrastructure.kind.plural
  singular := "infrastructure"
  title := "Infrastructure"
  description := "Infrastructure describes the platform and control plane topology of the cluster."
  spec := Schema.infrastructureSpec
  status := Schema.infrastructureStatus
  file := "infrastructures.crd.yaml"

/-- Cluster operator objects. -/
def clusterOperator : Definition where
  kind := ClusterOperator.kind.name
  plural := ClusterOperator.kind.plural
  singular := "clusteroperator"
  title := "ClusterOperator"
  description := "ClusterOperator reports the versions and health conditions of an operator."
  spec := Schema.clusterOperatorSpec
  status := Schema.clusterOperatorStatus
  file := "clusteroperators.crd.yaml"

/-- The definitions of all kinds. -/
def all : List Definition := [featureGate, clusterVersion, nodeConfig, infrastructure, clusterOperator]

/-- The comment at the top of each file. -/
def header : String := Schema.lines [
  "# Copyright (c) 2025 Erick Bourgeois, firestoned",
  "# SPDX-License-Identifier: MIT",
  "#",
  "# This file is AUTO-GENERATED from src/crd.rs",
  "# DO NOT EDIT MANUALLY - Run `cargo run --bin crdgen` to regenerate",
  "#",
  ""]

/-- The definition as the text of a file. -/
def manifest (d : Definition) : String := header ++ Yaml.write d.write

/-- The directory that the files are written to. -/
def directory : String := "deploy/crds"

/-- The files of all definitions. -/
def files : List (String × String) := all.map fun d => (d.file, d.manifest)

/-- What is printed while the files are written. -/
def report : String := Schema.lines <|
  ["Generating CRD YAML files from src/crd.rs..."] ++
  (all.map fun d => "  ✓ Generated " ++ d.file) ++
  ["✓ Successfully generated CRD YAML files in " ++ directory ++ "/",
    "",
    "Next steps:",
    "  1. Review the generated files",
    "  2. Deploy with: kubectl apply -f " ++ directory ++ "/",
    ""]

end Definition

end GateOperator
