import QuantumGoUtils.Go.Strings
import QuantumGoUtils.Go.Unicode
import QuantumGoUtils.Go.Strconv
import QuantumGoUtils.Go.Url
import QuantumGoUtils.Go.Uuid
import QuantumGoUtils.Requests.Canonical
import QuantumGoUtils.Requests.CanonicalLaws
import QuantumGoUtils.Go.UrlLaws
import QuantumGoUtils.Requests.HostLaws
import QuantumGoUtils.Requests.CanonicalV1
import QuantumGoUtils.Go.Base64
import QuantumGoUtils.GoTpm.Tpm2
import QuantumGoUtils.GoTpm.Response
import QuantumGoUtils.TpmDevice.Device
import QuantumGoUtils.TpmDevice.Encoding
import QuantumGoUtils.TpmDevice.Frame
import QuantumGoUtils.TpmDevice.DeviceLaws
import QuantumGoUtils.TpmDevice.HandleEmpty
import QuantumGoUtils.Ethrpc.Client
import QuantumGoUtils.Ethrpc.Selection
import QuantumGoUtils.Go.Json
import QuantumGoUtils.Go.JsonLaws
import QuantumGoUtils.Go.JsonNested
import QuantumGoUtils.TpmDevice.Sealer
import QuantumGoUtils.Cryptoctx.Runtime
import QuantumGoUtils.Cryptoctx.RuntimeLaws
import QuantumGoUtils.Cryptoctx.Tamper
import QuantumGoUtils.Cryptoctx.Store
import QuantumGoUtils.Cryptoctx.New
import QuantumGoUtils.Ethrpc.Hex
import QuantumGoUtils.Ethrpc.WaitMined
import QuantumGoUtils.Ethrpc.Rpc
import QuantumGoUtils.Ethrpc.Backend
import QuantumGoUtils.Retry.Retry
import QuantumGoUtils.Retry.RetryLaws
import QuantumGoUtils.Go.Fmt
import QuantumGoUtils.Database.Retrying
import QuantumGoUtils.Evm.HeadSub
